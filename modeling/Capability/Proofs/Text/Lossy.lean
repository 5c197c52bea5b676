import Capability.Proofs.Table.Comparison
import Capability.Proofs.Text.Sequence

/-!
# What is lost when bytes are read as text

Bytes need not be text.  Where no character's sequence stands at some place, the bytes
there are given up as far as they are the beginning of one, and a single byte if they
are none.  A replacement stands for what is given up, and reading goes on behind it.
`Repairs` says this of bytes and characters without a word about the order in which
bytes are looked at; it leaves no choice, and reading makes just these repairs.

So nothing is lost of bytes that are text already, and what has been read is text:
reading it again changes nothing.  What stands behind some text does not change how
that text is read.
-/

namespace Capability
namespace Text

/-! ## Repairs -/

/-- Bytes are the sequences of characters, one behind the other. -/
def WellFormed (bytes : List UInt8) : Prop := ∃ chars, encode chars = bytes

/-- The sequence of some character begins with the bytes. -/
def Begins (start : List UInt8) : Prop := ∃ c, start <+: String.utf8EncodeChar c

/-- In front of `rest` no character can be read, and `start` is what is given up: the longest
beginning of a character's sequence that stands there, or a single byte. -/
structure GivenUp (start rest : List UInt8) : Prop where
  nonempty : start ≠ []
  no_character : ∀ c, ¬ String.utf8EncodeChar c <+: start ++ rest
  beginning : Begins start ∨ start.length = 1
  maximal : ∀ byte more, rest = byte :: more → ¬ Begins (start ++ [byte])

/-- Characters are what the bytes hold, with one replacement for each part that is given up. -/
inductive Repairs : List UInt8 → List Char → Prop where
  | done : Repairs [] []
  | kept {c : Char} {rest : List UInt8} {chars : List Char} : Repairs rest chars →
      Repairs (String.utf8EncodeChar c ++ rest) (c :: chars)
  | replaced {start rest : List UInt8} {chars : List Char} : GivenUp start rest →
      Repairs rest chars → Repairs (start ++ rest) (replacement :: chars)

theorem exists_utf8EncodeChar_cons (c : Char) :
    ∃ first more, String.utf8EncodeChar c = first :: more :=
  List.exists_cons_of_ne_nil String.utf8EncodeChar_ne_nil

theorem Begins.of_append {start more : List UInt8} (begins : Begins (start ++ more)) :
    Begins start := by
  rcases begins with ⟨c, within⟩
  exact ⟨c, (List.prefix_append start more).trans within⟩

/-! ## Sequences that are open -/

/-- Some bytes have been read of a sequence, and this is pending of it. -/
inductive Opened : List UInt8 → Pending → Prop where
  | first {byte : UInt8} {pending : Pending} : Lead.of byte = .opens pending →
      Opened [byte] pending
  | next {start : List UInt8} {byte : UInt8} {pending : Pending} : Opened start pending →
      pending.accepts byte = true → ¬ pending.missing ≤ 1 →
      Opened (start ++ [byte]) (pending.push byte)

theorem completes_of_last {pending : Pending} {byte : UInt8} (last : pending.missing ≤ 1)
    (accepted : pending.accepts byte = true) :
    Completes pending [byte] (Char.ofNat (pending.extend byte)) := by
  rw [Completes, if_pos last]
  exact ⟨accepted, rfl, rfl⟩

theorem completes_of_inner {pending : Pending} {byte : UInt8} {more : List UInt8} {c : Char}
    (inner : ¬ pending.missing ≤ 1) (accepted : pending.accepts byte = true)
    (completes : Completes (pending.push byte) more c) : Completes pending (byte :: more) c := by
  rw [Completes, if_neg inner]
  exact ⟨accepted, completes⟩

/-- Where a byte is accepted the sequence can be completed: behind it the least byte always is. -/
theorem exists_completes (missing : Nat) (pending : Pending) (counted : pending.missing ≤ missing)
    {byte : UInt8} (accepted : pending.accepts byte = true) :
    ∃ more c, Completes pending (byte :: more) c := by
  induction missing generalizing pending byte with
  | zero => exact ⟨[], _, completes_of_last (Nat.le_succ_of_le counted) accepted⟩
  | succ missing inductionHypothesis =>
      by_cases last : pending.missing ≤ 1
      · exact ⟨[], _, completes_of_last last accepted⟩
      · have fewer : (pending.push byte).missing ≤ missing := Nat.sub_le_of_le_add counted
        have least : (pending.push byte).accepts 0x80 = true := rfl
        rcases inductionHypothesis _ fewer least with ⟨more, c, completes⟩
        exact ⟨0x80 :: more, c, completes_of_inner last accepted completes⟩

namespace Opened

variable {start rest : List UInt8} {pending : Pending}

/-- What completes the pending sequence to that of a character is what may follow. -/
theorem encoded_iff (opened : Opened start pending) {more : List UInt8} {c : Char} :
    String.utf8EncodeChar c = start ++ more ↔ Completes pending more c := by
  induction opened generalizing more with
  | first opens => rw [List.singleton_append, utf8EncodeChar_eq_cons_iff, opens, Lead.Continues]
  | next _ accepted inner inductionHypothesis =>
      rw [List.append_assoc, List.singleton_append, inductionHypothesis, Completes, if_neg inner,
        and_iff_right accepted]

theorem isOpen (opened : Opened start pending) : pending.accepts pending.low = true := by
  cases opened with
  | next _ _ _ => rfl
  | first opens =>
      unfold Lead.of at opens
      split_ifs at opens <;> simp only [Lead.opens.injEq] at opens <;> exact opens ▸ rfl

theorem nonempty (opened : Opened start pending) : start ≠ [] := by
  cases opened with
  | first _ => exact List.cons_ne_nil _ _
  | next _ _ _ => exact List.append_ne_nil_of_right_ne_nil _ (List.cons_ne_nil _ _)

theorem begins (opened : Opened start pending) : Begins start := by
  rcases exists_completes _ pending (Nat.le_refl _) opened.isOpen with ⟨more, c, completes⟩
  exact ⟨c, _, (opened.encoded_iff.mpr completes).symm⟩

/-- No character's sequence is found within what is open. -/
theorem no_character_within (opened : Opened start pending) (c : Char) :
    ¬ String.utf8EncodeChar c <+: start := by
  induction opened with
  | @first byte pending opens =>
      intro within
      rcases exists_utf8EncodeChar_cons c with ⟨first, more, encoded⟩
      rw [encoded] at within
      rcases List.cons_prefix_cons.mp within with ⟨rfl, nothing⟩
      rw [List.prefix_nil.mp nothing] at encoded
      exact (Opened.first opens).encoded_iff.mp encoded
  | @next start byte pending opened accepted inner inductionHypothesis =>
      intro within
      rcases List.prefix_concat_iff.mp within with whole | shorter
      · have ended := (opened.next accepted inner).encoded_iff.mp
          (whole.trans (List.append_nil _).symm)
        exact ended
      · exact inductionHypothesis shorter

/-- What is open is given up where it cannot go on. -/
theorem givenUp (opened : Opened start pending)
    (blocked : ∀ byte more, rest = byte :: more → pending.accepts byte = false) :
    GivenUp start rest where
  nonempty := opened.nonempty
  beginning := .inl opened.begins
  no_character c within := by
    rcases List.prefix_or_prefix_of_prefix within (List.prefix_append start rest) with
      inside | ⟨more, whole⟩
    · exact opened.no_character_within c inside
    · have completes := opened.encoded_iff.mp whole.symm
      cases more with
      | nil => exact completes
      | cons byte more =>
          rw [← whole, List.prefix_append_right_inj] at within
          rcases within with ⟨behind, parts⟩
          cases (blocked byte _ parts.symm).symm.trans completes.1
  maximal byte more parts := by
    rintro ⟨c, behind, whole⟩
    rw [List.append_assoc] at whole
    cases (blocked byte more parts).symm.trans (opened.encoded_iff.mp whole.symm).1

end Opened

/-- A byte that begins no sequence is given up alone. -/
theorem givenUp_invalid {byte : UInt8} (invalid : Lead.of byte = .invalid) (rest : List UInt8) :
    GivenUp [byte] rest := by
  have opensNothing : ∀ c more, String.utf8EncodeChar c ≠ byte :: more := by
    intro c more encoded
    rw [utf8EncodeChar_eq_cons_iff, invalid] at encoded
    exact encoded
  refine ⟨List.cons_ne_nil _ _, fun c within => ?_, .inr rfl, fun _ _ _ => ?_⟩
  · rcases exists_utf8EncodeChar_cons c with ⟨first, more, encoded⟩
    rw [encoded] at within
    rw [(List.cons_prefix_cons.mp within).1] at encoded
    exact opensNothing c more encoded
  · rintro ⟨c, behind, whole⟩
    exact opensNothing c _ whole.symm

/-! ## Reading makes the repairs -/

theorem Repairs.character {c : Char} {bytes rest : List UInt8} {chars : List Char}
    (encoded : String.utf8EncodeChar c = bytes) (repairs : Repairs rest chars) :
    Repairs (bytes ++ rest) (c :: chars) :=
  encoded ▸ .kept repairs

/-- Reading makes the repairs, and it does so also where a sequence is open.  Behind an open
sequence that cannot go on reading starts anew at the same byte. -/
theorem repairs_decodeFrom (bytes : List UInt8) :
    Repairs bytes (decodeFrom none bytes) ∧
      ∀ start pending, Opened start pending →
        Repairs (start ++ bytes) (decodeFrom (some pending) bytes) := by
  induction bytes with
  | nil =>
      refine ⟨.done, fun start pending opened => ?_⟩
      exact .replaced (opened.givenUp nofun) .done
  | cons byte rest inductionHypothesis =>
      rcases inductionHypothesis with ⟨fresh, within⟩
      have anew : Repairs (byte :: rest) (decodeFrom none (byte :: rest)) := by
        rw [decodeFrom]
        cases role : Lead.of byte with
        | character c =>
            have alone : String.utf8EncodeChar c = [byte] := by
              rw [utf8EncodeChar_eq_cons_iff, role]
              exact ⟨rfl, rfl⟩
            exact .character alone fresh
        | opens pending => exact within [byte] pending (.first role)
        | invalid => exact .replaced (givenUp_invalid role rest) fresh
      refine ⟨anew, fun start pending opened => ?_⟩
      rw [decodeFrom]
      cases accepted : pending.accepts byte with
      | false =>
          have blocked : ∀ next more, byte :: rest = next :: more → pending.accepts next = false := by
            rintro next more ⟨⟩
            exact accepted
          exact .replaced (opened.givenUp blocked) anew
      | true =>
          rw [if_pos rfl, ← List.singleton_append, ← List.append_assoc]
          by_cases last : pending.missing ≤ 1
          · rw [if_pos last]
            exact .character (opened.encoded_iff.mpr (completes_of_last last accepted)) fresh
          · rw [if_neg last]
            exact within _ _ (opened.next accepted last)

/-- What has been completed is read as its character. -/
theorem decodeFrom_of_completes {pending : Pending} {more : List UInt8} {c : Char}
    (completes : Completes pending more c) (rest : List UInt8) :
    decodeFrom (some pending) (more ++ rest) = c :: decodeFrom none rest := by
  induction more generalizing pending with
  | nil => exact completes.elim
  | cons byte more inductionHypothesis =>
      rcases completes with ⟨accepted, behind⟩
      rw [List.cons_append, decodeFrom, if_pos accepted]
      by_cases last : pending.missing ≤ 1
      · rw [if_pos last] at behind ⊢
        rw [behind.1, behind.2, List.nil_append]
      · rw [if_neg last] at behind ⊢
        exact inductionHypothesis behind

theorem decode_utf8EncodeChar_append (c : Char) (rest : List UInt8) :
    decode (String.utf8EncodeChar c ++ rest) = c :: decode rest := by
  rcases exists_utf8EncodeChar_cons c with ⟨first, more, encoded⟩
  have continues := utf8EncodeChar_eq_cons_iff.mp encoded
  rw [encoded, List.cons_append, decode, decodeFrom]
  cases role : Lead.of first with
  | character own =>
      rw [role] at continues
      rcases continues with ⟨rfl, rfl⟩
      rfl
  | opens pending =>
      rw [role] at continues
      exact decodeFrom_of_completes continues rest
  | invalid =>
      rw [role] at continues
      exact continues.elim

/-- A text in front of other bytes is read as it is. -/
theorem decode_encode_append (chars : List Char) (rest : List UInt8) :
    decode (encode chars ++ rest) = chars ++ decode rest := by
  induction chars with
  | nil => rfl
  | cons c chars inductionHypothesis =>
      rw [encode, List.flatMap_cons, List.append_assoc, decode_utf8EncodeChar_append, ← encode,
        inductionHypothesis, List.cons_append]

theorem decode_encode (chars : List Char) : decode (encode chars) = chars := by
  have read := decode_encode_append chars []
  rwa [List.append_nil, show decode [] = [] from rfl, List.append_nil] at read

/-! ## Repairs leave no choice -/

/-- Of two parts that could be given up at one place neither is longer. -/
theorem GivenUp.eq_nil_of_append {start more rest : List UInt8}
    (shorter : GivenUp start (more ++ rest)) (longer : GivenUp (start ++ more) rest) :
    more = [] := by
  cases more with
  | nil => rfl
  | cons byte more =>
      have further : start ++ byte :: more = start ++ [byte] ++ more := by
        rw [List.append_assoc, List.singleton_append]
      rcases longer.beginning with begins | single
      · rw [further] at begins
        exact absurd begins.of_append (shorter.maximal byte _ rfl)
      · rw [List.length_append, List.length_cons] at single
        have nothing : start.length = 0 := by omega
        exact absurd (List.eq_nil_of_length_eq_zero nothing) shorter.nonempty

theorem GivenUp.unique {first second rest others : List UInt8} (left : GivenUp first rest)
    (right : GivenUp second others) (same : first ++ rest = second ++ others) :
    rest = others := by
  rcases List.append_eq_append_iff.mp same with ⟨more, rfl, rfl⟩ | ⟨more, rfl, rfl⟩
  · rw [left.eq_nil_of_append right, List.nil_append]
  · rw [right.eq_nil_of_append left, List.nil_append]

theorem Repairs.unique {bytes : List UInt8} {chars others : List Char}
    (first : Repairs bytes chars) (second : Repairs bytes others) : chars = others := by
  induction first generalizing others with
  | done =>
      generalize whole : ([] : List UInt8) = bytes at second
      cases second with
      | done => rfl
      | kept _ => exact absurd (List.append_eq_nil_iff.mp whole.symm).1 String.utf8EncodeChar_ne_nil
      | replaced givenUp _ => exact absurd (List.append_eq_nil_iff.mp whole.symm).1 givenUp.nonempty
  | @kept c rest chars _ inductionHypothesis =>
      generalize whole : String.utf8EncodeChar c ++ rest = bytes at second
      cases second with
      | done => exact absurd (List.append_eq_nil_iff.mp whole).1 String.utf8EncodeChar_ne_nil
      | @kept other others _ later =>
          have read := congrArg decode whole
          rw [decode_utf8EncodeChar_append, decode_utf8EncodeChar_append] at read
          rw [(List.cons.inj read).1] at whole ⊢
          rw [← List.append_cancel_left whole] at later
          rw [inductionHypothesis later]
      | @replaced start others _ givenUp _ =>
          exact absurd (whole ▸ List.prefix_append _ _) (givenUp.no_character c)
  | @replaced start rest chars givenUp _ inductionHypothesis =>
      generalize whole : start ++ rest = bytes at second
      cases second with
      | done => exact absurd (List.append_eq_nil_iff.mp whole).1 givenUp.nonempty
      | @kept c others _ _ => exact absurd (whole ▸ List.prefix_append _ _) (givenUp.no_character c)
      | replaced otherGivenUp later =>
          rw [← givenUp.unique otherGivenUp whole] at later
          rw [inductionHypothesis later]

theorem repairs_iff {bytes : List UInt8} {chars : List Char} :
    Repairs bytes chars ↔ chars = decode bytes := by
  constructor
  · intro repairs
    exact repairs.unique (repairs_decodeFrom bytes).1
  · rintro rfl
    exact (repairs_decodeFrom bytes).1

/-! ## Bytes and texts -/

/-- The bytes of the text that is read. -/
theorem encode_lossy (bytes : List UInt8) : encode (lossy bytes).toList = encode (decode bytes) := by
  rw [lossy, String.toList_ofList]

/-- Reading keeps exactly the bytes that are text. -/
theorem encode_lossy_eq_iff (bytes : List UInt8) :
    encode (lossy bytes).toList = bytes ↔ WellFormed bytes := by
  rw [encode_lossy]
  constructor
  · intro same
    exact ⟨decode bytes, same⟩
  · rintro ⟨chars, rfl⟩
    rw [decode_encode]

/-- What has been read is read again as it is. -/
theorem lossy_encode_lossy (bytes : List UInt8) :
    lossy (encode (lossy bytes).toList) = lossy bytes := by
  rw [encode_lossy, lossy, decode_encode, lossy]

/-- Bytes that are text stay as they are in front of any others. -/
theorem encode_lossy_append {front : List UInt8} (isText : WellFormed front)
    (bytes : List UInt8) :
    encode (lossy (front ++ bytes)).toList = front ++ encode (lossy bytes).toList := by
  rcases isText with ⟨chars, rfl⟩
  rw [encode_lossy, encode_lossy, decode_encode_append, encode, List.flatMap_append, ← encode,
    ← encode]

end Text

/-! ## Types that show their bytes -/

/-- Only a type with neither a display text of its own nor a conversion into text is said to
display a view of its bytes. -/
theorem Behaviour.sources_of_stringView {α : Type} {behaviour : Behaviour α}
    (viewed : behaviour.predicates.display = .stringView) :
    behaviour.display? = none ∧ behaviour.stringCast? = none ∧
      ∃ view, behaviour.stringView? = some view := by
  rw [predicates, Predicates.ofTraits] at viewed
  cases own : behaviour.display? with
  | some _ => simp [traits, own] at viewed
  | none =>
      cases cast : behaviour.stringCast? with
      | some _ => simp [traits, own, cast] at viewed
      | none =>
          cases isView : behaviour.stringView? with
          | none => simp [traits, own, cast, isView] at viewed
          | some view => exact ⟨rfl, rfl, view, rfl⟩

/-- Such a type displays what is read of the view. -/
theorem Table.display?_of_stringView {α : Type} {behaviour : Behaviour α}
    (noDisplay : behaviour.display? = none) (noCast : behaviour.stringCast? = none)
    {view : α → List UInt8} (isView : behaviour.stringView? = some view) (value : α) :
    (of behaviour).display? value = some (Text.lossy (view value)) := by
  have slot : (of behaviour).slot .display = some fun value => Text.lossy (view value) := by
    apply slot_of_first_present [.toString, .stringCast] .stringView rfl
    · exact List.forall_mem_cons.mpr ⟨noDisplay, List.forall_mem_singleton.mpr noCast⟩
    · rw [Source.resolve, isView]
      rfl
  rw [display?, slot]
  rfl

namespace Text

/--
Reading bytes as text always gives text, and changes nothing but what is not text.  The
bytes of the result are well formed; they are the given bytes exactly if these are well
formed; reading them again changes nothing; and well-formed bytes stay as they are in
front of any others.  The characters of the result are the repairs of the bytes, which
put one replacement for each part that is given up and keep every character in its place.
A type that is said to display a view of its bytes displays just this.
-/
theorem lossy_repairs_only_broken (bytes : List UInt8) :
    WellFormed (encode (lossy bytes).toList) ∧
      (encode (lossy bytes).toList = bytes ↔ WellFormed bytes) ∧
      lossy (encode (lossy bytes).toList) = lossy bytes ∧
      (∀ front, WellFormed front →
        encode (lossy (front ++ bytes)).toList = front ++ encode (lossy bytes).toList) ∧
      (∀ chars, Repairs bytes chars ↔ chars = (lossy bytes).toList) ∧
      ∀ {α : Type} (behaviour : Behaviour α), behaviour.predicates.display = .stringView →
        ∃ view, behaviour.stringView? = some view ∧
          ∀ value, (Table.of behaviour).display? value = some (lossy (view value)) := by
  refine ⟨⟨_, rfl⟩, encode_lossy_eq_iff bytes, lossy_encode_lossy bytes,
    fun front isText => encode_lossy_append isText bytes, fun chars => ?_,
    fun behaviour viewed => ?_⟩
  · rw [repairs_iff, lossy, String.toList_ofList]
  · rcases Behaviour.sources_of_stringView viewed with ⟨noDisplay, noCast, view, isView⟩
    exact ⟨view, isView, Table.display?_of_stringView noDisplay noCast isView⟩

/-- An overlong form loses each byte for itself, a sequence that is cut by a letter loses one
character, and half of a character loses three; letters around them stay. -/
theorem lossy_repairs_only_broken_mixed :
    WellFormed [0x6F, 0x6B] ∧
      encode (lossy ([0x6F, 0x6B] ++ [0xC0, 0xAF, 0xE2, 0x82, 0x41, 0xED, 0xA0, 0x80])).toList =
        [0x6F, 0x6B] ++ encode (lossy [0xC0, 0xAF, 0xE2, 0x82, 0x41, 0xED, 0xA0, 0x80]).toList ∧
      Repairs [0xC0, 0xAF, 0xE2, 0x82, 0x41, 0xED, 0xA0, 0x80]
        [replacement, replacement, replacement, 'A', replacement, replacement, replacement] ∧
      Catalog.blob.behaviour.predicates.display = .stringView ∧
      ∃ view, Catalog.blob.behaviour.stringView? = some view ∧
        ∀ value, (Table.of Catalog.blob.behaviour).display? value = some (lossy (view value)) := by
  have plain : WellFormed [0x6F, 0x6B] := ⟨['o', 'k'], by decide⟩
  have viewed : Catalog.blob.behaviour.predicates.display = .stringView := by decide
  rcases lossy_repairs_only_broken [0xC0, 0xAF, 0xE2, 0x82, 0x41, 0xED, 0xA0, 0x80] with
    ⟨_, _, _, kept, repaired, displayed⟩
  exact ⟨plain, kept _ plain, (repaired _).mpr (by decide), viewed, displayed _ viewed⟩

end Text
end Capability
