import Capability.Proofs.Json.Layout
import Capability.Proofs.Registry.Loading

/-!
# Layouts of lists of manifests

The texts of a list of manifests are described by the fields of a manifest alone: what
stands for each of them, under which name, and in which order a list would hold them.  At
each of three levels a record is an object or a list, and in an object fields may come in
any order, with members of any depth between them that are no fields.  All these texts are
loaded alike, since from all of them the same manifests are read.

On the other side, a manifest may have a flaw: one of its own fields, or one of its
predicates or of its profile, is missing or stands twice.  No text with such a manifest in
it is loaded, whatever stands around it, and the refusal is about the text.
-/

namespace Capability

open Json Json.Reader Json.Shape

/-! ## What stands for predicates, profiles and manifests -/

/-- What stands for each field of predicates. -/
def Predicates.entries (predicates : Predicates) : List Json.Entry := [
  .boolean "default_constructible" predicates.defaultConstructible,
  .boolean "copy_constructible" predicates.copyConstructible,
  .boolean "move_constructible" predicates.moveConstructible,
  .boolean "destructible" predicates.destructible,
  .boolean "trivially_destructible" predicates.triviallyDestructible,
  .boolean "trivially_copyable" predicates.triviallyCopyable,
  .boolean "trivially_movable" predicates.triviallyMovable,
  .boolean "send" predicates.send,
  .boolean "sync" predicates.sync,
  .boolean "equality_comparable" predicates.equalityComparable,
  .boolean "has_eq" predicates.hasEq,
  .boolean "has_ne" predicates.hasNe,
  .boolean "has_lt" predicates.hasLt,
  .boolean "has_le" predicates.hasLe,
  .boolean "has_gt" predicates.hasGt,
  .boolean "has_ge" predicates.hasGe,
  .choice ThreeWaySupport.name "three_way" predicates.threeWay,
  .boolean "totally_ordered" predicates.totallyOrdered,
  .boolean "hashable" predicates.hashable,
  .boolean "debuggable" predicates.debuggable,
  .choice DisplaySource.name "display" predicates.display]

/-- What stands for each field of a profile. -/
def Profile.entries (profile : Profile) : List Json.Entry := [
  .boolean "needs_drop" profile.needsDrop,
  .boolean "copy" profile.copy,
  .boolean "default" profile.default,
  .boolean "copy_new" profile.copyNew,
  .boolean "move_new" profile.moveNew,
  .boolean "partial_eq" profile.partialEq,
  .boolean "eq" profile.eq,
  .boolean "partial_ord" profile.partialOrd,
  .boolean "ord" profile.ord,
  .boolean "hash" profile.hash,
  .boolean "debug" profile.debug,
  .boolean "display" profile.display,
  .boolean "trivial" profile.trivial,
  .boolean "unpin" profile.unpin,
  .boolean "send" profile.send,
  .boolean "sync" profile.sync]

/-- What stands for each field of a manifest. -/
def Manifest.entries (manifest : Manifest) : List Json.Entry := [
  .string "name" manifest.name,
  .string "rust_type" manifest.sourceType,
  .string "symbol" manifest.symbol,
  .size "size" manifest.size,
  .size "align" manifest.align,
  .record "predicates" manifest.predicates.entries,
  .record "profile" manifest.profile.entries,
  .list (ChoiceText Operation.name) "operations" manifest.operations]

/-! ## Reading -/

theorem truth_reads (value : Bool) (text : List Char) (isText : BooleanText value text) :
    Reads boolean text value :=
  boolean_reads isText

theorem operations_reads (operations : List Operation) (text : List Char)
    (isText : ListText (ChoiceText Operation.name) operations text) :
    Reads (list (choice Operation.name Operation.all)) text operations :=
  list_reads_form (fun operation _ => choice_reads_form (by decide) operation.mem_all) isText

theorem Predicates.makesUp (predicates : Predicates) :
    shape.MakesUp predicates.entries predicates := by
  have support : ∀ value text, ChoiceText ThreeWaySupport.name value text →
      Reads (choice ThreeWaySupport.name ThreeWaySupport.all) text value :=
    fun value _ => choice_reads_form (by decide) (by cases value <;> decide)
  have source : ∀ value text, ChoiceText DisplaySource.name value text →
      Reads (choice DisplaySource.name DisplaySource.all) text value :=
    fun value _ => choice_reads_form (by decide) (by cases value <;> decide)
  apply Exists.intro
  refine ⟨?composes, ?apart, ?restored⟩
  case composes =>
    iterate 16 apply Composes.field truth_reads
    apply Composes.field support
    iterate 3 apply Composes.field truth_reads
    exact .field source .nil
  case apart =>
    -- Each change sets a part of its own, so that both orders give the same record.
    simp only [List.pairwise_cons, List.forall_mem_cons, List.not_mem_nil, false_implies,
      implies_true, and_true, List.Pairwise.nil]
  case restored => rfl

theorem Predicates.reads (predicates : Predicates) (text : List Char)
    (isText : RecordText predicates.entries text) : Reads shape.read text predicates :=
  predicates.makesUp.reads shape_lawful.names_nodup isText

theorem Profile.makesUp (profile : Profile) : shape.MakesUp profile.entries profile := by
  apply Exists.intro
  refine ⟨?composes, ?apart, ?restored⟩
  case composes =>
    iterate 16 apply Composes.field truth_reads
    exact .nil
  case apart =>
    simp only [List.pairwise_cons, List.forall_mem_cons, List.not_mem_nil, false_implies,
      implies_true, and_true, List.Pairwise.nil]
  case restored => rfl

theorem Profile.reads (profile : Profile) (text : List Char)
    (isText : RecordText profile.entries text) : Reads shape.read text profile :=
  profile.makesUp.reads shape_lawful.names_nodup isText

theorem Manifest.makesUp (manifest : Manifest) : shape.MakesUp manifest.entries manifest := by
  apply Exists.intro
  refine ⟨?composes, ?apart, ?restored⟩
  case composes =>
    iterate 3 apply Composes.field fun _ _ => string_reads
    iterate 2 apply Composes.field fun number text (isText : SizeText number text) =>
      isText ▸ size_reads number
    apply Composes.field Predicates.reads
    apply Composes.field Profile.reads
    exact .field operations_reads .nil
  case apart =>
    simp only [List.pairwise_cons, List.forall_mem_cons, List.not_mem_nil, false_implies,
      implies_true, and_true, List.Pairwise.nil]
  case restored => rfl

theorem Manifest.reads (manifest : Manifest) (text : List Char)
    (isText : RecordText manifest.entries text) : Reads shape.read text manifest :=
  manifest.makesUp.reads shape_lawful.names_nodup isText

/-! ## Flaws -/

theorem Predicates.fields_exact : ∀ field ∈ shape.fields, Exact field.read := by
  iterate 16 refine List.forall_mem_cons.mpr ⟨boolean_exact.map _, ?_⟩
  refine List.forall_mem_cons.mpr ⟨choice_exact.map _, ?_⟩
  iterate 3 refine List.forall_mem_cons.mpr ⟨boolean_exact.map _, ?_⟩
  exact List.forall_mem_singleton.mpr (choice_exact.map _)

theorem Profile.fields_exact : ∀ field ∈ shape.fields, Exact field.read := by
  iterate 16 refine List.forall_mem_cons.mpr ⟨boolean_exact.map _, ?_⟩
  exact nofun

theorem Manifest.fields_exact : ∀ field ∈ shape.fields, Exact field.read := by
  have predicates := read_exact Predicates.shape_lawful.names_nodup Predicates.fields_exact
  have profile := read_exact Profile.shape_lawful.names_nodup Profile.fields_exact
  iterate 3 refine List.forall_mem_cons.mpr ⟨text_exact.map _, ?_⟩
  iterate 2 refine List.forall_mem_cons.mpr ⟨size_exact.map _, ?_⟩
  refine List.forall_mem_cons.mpr ⟨predicates.map _, ?_⟩
  refine List.forall_mem_cons.mpr ⟨profile.map _, ?_⟩
  exact List.forall_mem_singleton.mpr ((list_exact choice_exact).map _)

/-- A field of a manifest is missing or stands twice, or one of its predicates or its profile. -/
def Manifest.Flawed : List Char → Prop :=
  Json.Flawed (shape.fields.map (·.name)) fun name content =>
    name = "predicates" ∧ Predicates.shape.Miscounted content ∨
      name = "profile" ∧ Profile.shape.Miscounted content

theorem Manifest.Flawed.refuses {text : List Char} (flawed : Manifest.Flawed text) :
    Refuses Manifest.shape.read text := by
  have nodup := shape_lawful.names_nodup
  refine refuses_of_flawed nodup fields_exact ?_ flawed
  rintro field member content (⟨isPredicates, inner⟩ | ⟨isProfile, inner⟩)
  · have listed : Field.record Predicates.shape "predicates" Manifest.predicates
        (fun predicates record => { record with predicates := predicates }) ∈ shape.fields := by
      simp [shape]
    cases List.inj_on_of_nodup_map nodup member listed isPredicates
    exact (inner.refuses Predicates.shape_lawful.names_nodup Predicates.fields_exact).map _
  · have listed : Field.record Profile.shape "profile" Manifest.profile
        (fun profile record => { record with profile := profile }) ∈ shape.fields := by
      simp [shape]
    cases List.inj_on_of_nodup_map nodup member listed isProfile
    exact (inner.refuses Profile.shape_lawful.names_nodup Profile.fields_exact).map _

/-! ## Lists of manifests -/

namespace Registry

/-- A text of some form with white space around it. -/
inductive Around (form : List Char → Prop) : String → Prop where
  | intro {before text after : List Char} :
      AllBlank before → form text → AllBlank after →
      Around form (String.ofList (before ++ text ++ after))

/-- The text lists the manifests. -/
def Lists (manifests : List Manifest) : String → Prop :=
  Around (ListText (fun manifest => RecordText manifest.entries) manifests)

/-- A list one item of which is a flawed manifest, whatever the others are. -/
inductive FlawedList : List Char → Prop where
  | intro {text one : List Char} {texts : List (List Char)} :
      Derives (.items true texts) text → one ∈ texts → Manifest.Flawed one →
      FlawedList ('[' :: (text ++ [']']))

theorem Lists.readManifests {manifests : List Manifest} {text : String}
    (lists : Lists manifests text) : readManifests text = .ok manifests := by
  cases lists with
  | intro blankBefore isText blankAfter =>
      exact (list_reads_form Manifest.reads isText).run blankBefore blankAfter

theorem FlawedList.refuses {text : List Char} (flawed : FlawedList text) :
    Refuses (list Manifest.shape.read) text := by
  have exact := read_exact Manifest.shape_lawful.names_nodup Manifest.fields_exact
  cases flawed with
  | intro derives member flaw => exact list_refuses exact derives member flaw.refuses

theorem ofJson_of_unreadable {text : String} {fault : Fault}
    (unreadable : readManifests text = .error fault) :
    ofJson text = .error (.unreadable (fault.message text)) := by
  rw [ofJson, unreadable]

/-! ### One manifest in two layouts -/

/-- A manifest of pairs of coordinates that offers two operations. -/
def pairs : Manifest := { Catalog.point.manifest with operations := [.destruct, .eq] }

/-- The texts of its predicates in their order.  An object gives the three-way comparison. -/
def pairsPredicates : List (List Char) :=
  List.replicate 16 "true".toList ++
    [joinedObject [("native", "null".toList)], "true".toList, "true".toList, "true".toList,
      quoted "absent"]

/-- The texts of its profile in their order. -/
def pairsProfile : List (List Char) :=
  "false".toList :: List.replicate 10 "true".toList ++
    "false".toList :: List.replicate 4 "true".toList

/-- The texts of its operations in their order. -/
def pairsOperations : List (List Char) :=
  [quoted "destruct", joinedObject [("eq", "null".toList)]]

/-- The texts of its fields in their order.  The name begins with a code unit. -/
def pairsFields : List (List Char) := [
  inQuotes "\\u0050oint".toList,
  quoted "Point",
  quoted "point_bridge_vtable",
  digits 8,
  digits 4,
  joinedList pairsPredicates,
  joinedList pairsProfile,
  joinedList pairsOperations]

/-- The members of an object in which the fields stand backwards, behind a member that is none. -/
def pairsBackwards : List (String × List Char) :=
  ("note", joinedList [joinedList [joinedList []], inQuotes "\\ud800".toList]) ::
    ((pairs.entries.map (·.name)).zip pairsFields).reverse

theorem pairsFields_stand : List.Forall₂ Json.Entry.stands pairs.entries pairsFields := by
  have name : StringText pairs.name (inQuotes "\\u0050oint".toList) :=
    .intro (@Spelled.unit 0x50 "0050".toList _ _ rfl rfl (.inl (by decide))
      (spelled_flatMap_escape "oint".toList))
  have predicates : List.Forall₂ Json.Entry.stands pairs.predicates.entries pairsPredicates := by
    iterate 16 refine .cons rfl ?_
    refine .cons (choiceText_joinedObject ThreeWaySupport.name .native) ?_
    iterate 3 refine .cons rfl ?_
    exact .cons (.name (stringText_quoted "absent")) .nil
  have profile : List.Forall₂ Json.Entry.stands pairs.profile.entries pairsProfile := by
    iterate 16 refine .cons rfl ?_
    exact .nil
  have operations : List.Forall₂ (ChoiceText Operation.name) pairs.operations pairsOperations :=
    .cons (.name (stringText_quoted "destruct"))
      (.cons (choiceText_joinedObject Operation.name .eq) .nil)
  refine .cons name ?_
  iterate 2 refine .cons (stringText_quoted _) ?_
  iterate 2 refine .cons rfl ?_
  refine .cons (recordText_joinedList predicates) ?_
  refine .cons (recordText_joinedList profile) ?_
  exact .cons (listText_joinedList (fun _ _ => ChoiceText.derives) operations) .nil

theorem pairsBackwards_derive : ∀ member ∈ pairsBackwards, Derives .value member.2 := by
  have half : Derives .value (inQuotes "\\ud800".toList) :=
    .string (@IsBody.unit 0xD800 "d800".toList _ rfl rfl .nil)
  have deep : Derives .value (joinedList [joinedList []]) :=
    derives_joinedList (List.forall_mem_singleton.mpr (derives_joinedList nofun))
  have note : ∀ text ∈ [joinedList [joinedList []], inQuotes "\\ud800".toList],
      Derives .value text :=
    List.forall_mem_cons.mpr ⟨deep, List.forall_mem_singleton.mpr half⟩
  refine List.forall_mem_cons.mpr ⟨derives_joinedList note, fun member listed => ?_⟩
  exact derives_of_stand (fun entry _ => entry.derives) pairsFields_stand _
    (List.of_mem_zip (List.mem_reverse.mp listed)).2

theorem pairsBackwards_stand : RecordText pairs.entries (joinedObject pairsBackwards) := by
  have foreign : ∀ member ∈ [pairsBackwards.head (by decide)],
      member.1 ∉ pairs.entries.map (·.name) := by
    decide
  have permutation := (List.reverse_perm ((pairs.entries.map (·.name)).zip pairsFields)).cons
    (pairsBackwards.head (by decide))
  exact recordText_of_perm Manifest.shape_lawful.names_nodup
    (derives_joinMembers pairsBackwards_derive true) (named_writtenNames _) pairsFields_stand
    foreign (permutation.trans (List.perm_append_singleton _ _).symm)

/-- A text on lines of its own. -/
def onLines (text : List Char) : String := String.ofList (['\n'] ++ text ++ ['\n'])

theorem around_onLines {form : List Char → Prop} {text : List Char} (isText : form text) :
    Around form (onLines text) := by
  have isBlank : AllBlank ['\n'] := by
    intro c member
    cases List.mem_singleton.mp member
    decide
  exact .intro isBlank isText isBlank

/-! ### Loading -/

/-- Loading does not depend on the layout of a text: from every text of a list of manifests
exactly these are read, and so all texts of one list are loaded alike.  Where a field of a
manifest, or of its predicates or its profile, is missing or stands twice, no text is loaded. -/
theorem ofJson_of_layout :
    (∀ manifests text, Lists manifests text →
      readManifests text = .ok manifests ∧ ofJson text = ofList manifests) ∧
    (∀ manifests first second, Lists manifests first → Lists manifests second →
      ofJson first = ofJson second) ∧
    ∀ text, Around FlawedList text → ∃ message, ofJson text = .error (.unreadable message) := by
  have loaded : ∀ manifests text, Lists manifests text → ofJson text = ofList manifests :=
    fun manifests text lists => ofJson_of_read lists.readManifests
  refine ⟨?reading, ?layouts, ?flaws⟩
  case reading =>
    intro manifests text lists
    exact ⟨lists.readManifests, loaded manifests text lists⟩
  case layouts =>
    intro manifests first second listsFirst listsSecond
    rw [loaded manifests first listsFirst, loaded manifests second listsSecond]
  case flaws =>
    intro text flawed
    cases flawed with
    | intro blankBefore flawed blankAfter =>
        rcases flawed.refuses.run blankBefore blankAfter with ⟨fault, unreadable⟩
        exact ⟨_, ofJson_of_unreadable unreadable⟩

/-- A manifest is loaded from an object with its fields backwards and a member in front that is
none, and from a list of its fields alike; and it is not loaded where its size stands twice. -/
theorem ofJson_of_layout_pairs :
    readManifests (onLines (joinedList [joinedObject pairsBackwards])) = .ok [pairs] ∧
    ofJson (onLines (joinedList [joinedObject pairsBackwards])) =
      ofJson (onLines (joinedList [joinedList pairsFields])) ∧
    ∃ message, ofJson (onLines (joinedList [joinedObject (("size", digits 8) :: pairsBackwards)])) =
      .error (.unreadable message) := by
  have object : Lists [pairs] (onLines (joinedList [joinedObject pairsBackwards])) :=
    around_onLines (listText_joinedList (fun _ _ => RecordText.derives)
      (.cons pairsBackwards_stand .nil))
  have list : Lists [pairs] (onLines (joinedList [joinedList pairsFields])) :=
    around_onLines (listText_joinedList (fun _ _ => RecordText.derives)
      (.cons (recordText_joinedList pairsFields_stand) .nil))
  have derive : ∀ member ∈ ("size", digits 8) :: pairsBackwards, Derives .value member.2 :=
    List.forall_mem_cons.mpr ⟨derives_digits 8, pairsBackwards_derive⟩
  have twice : Manifest.Flawed (joinedObject (("size", digits 8) :: pairsBackwards)) :=
    .count (derives_joinMembers derive true) (named_writtenNames _) (by decide : "size" ∈ _)
      (by decide)
  have flawed : FlawedList (joinedList [joinedObject (("size", digits 8) :: pairsBackwards)]) :=
    .intro (derives_joinItems (List.forall_mem_singleton.mpr (derives_joinedObject derive)) true)
      List.mem_cons_self twice
  exact ⟨(ofJson_of_layout.1 _ _ object).1, ofJson_of_layout.2.1 _ _ _ object list,
    ofJson_of_layout.2.2 _ (around_onLines flawed)⟩

end Registry
end Capability
