import Capability.Catalog.Entries
import Capability.Check
import Capability.Json.Choice
import Capability.Json.Reader.Any
import Capability.Lifecycle.Script
import Capability.Registration.Expansion
import Capability.Registry
import Capability.Proofs.Registry.Insertion
import Capability.Proofs.Table.Agreement
import Capability.Proofs.Json.Consumption
import Capability.Proofs.Json.Text
import Capability.Proofs.Json.Number
import Capability.Proofs.Json.List
import Capability.Proofs.Json.Record
import Capability.Proofs.Registry.RoundTrip
import Capability.Proofs.Registry.Run
import Capability.Proofs.Code.Parser
import Capability.Proofs.Condition.Derivation
import Capability.Proofs.Condition.Grammar
import Capability.Proofs.Table.Comparison
import Capability.Proofs.Table.Obligation
import Capability.Proofs.Lifecycle.Calls
import Capability.Proofs.Lifecycle.Slots
import Capability.Proofs.Lifecycle.Lives
import Capability.Proofs.Condition.Meaning
import Capability.Proofs.Check.Reading
import Capability.Proofs.Condition.Emission
import Capability.Proofs.Check.Conjunction
import Capability.Proofs.Registry.Loading
import Capability.Proofs.Table.Precedence
import Capability.Proofs.Naming.SnakeCase
import Capability.Proofs.Naming.Underscores
import Capability.Proofs.Table.Growth
import Capability.Proofs.Code.Word
import Capability.Proofs.Registration.Names
import Capability.Proofs.Code.Quoted
import Capability.Proofs.Code.Number
import Capability.Proofs.Code.Literal
import Capability.Proofs.Code.Leaf
import Capability.Proofs.Code.Atom
import Capability.Proofs.Code.Reading
import Capability.Proofs.Code.Plain
import Capability.Proofs.Registration.TypeText
import Capability.Proofs.Registry.Symbols
import Capability.Proofs.Lifecycle.Variables
import Capability.Proofs.Code.Spelling
import Capability.Proofs.Condition.Text
import Capability.Proofs.Code.Mentions
import Capability.Proofs.Code.MentionTokens
import Capability.Proofs.Registration.Scope
import Capability.Proofs.Registration.Plan
import Capability.Proofs.Registry.Refusal
import Capability.Proofs.Registration.Acceptance
import Capability.Proofs.Code.Substitution
import Capability.Proofs.Registration.Constructor
import Capability.Proofs.Text.Literal
import Capability.Proofs.Check.Assertion
import Capability.Proofs.Table.Synthesis
import Capability.Proofs.Text.Sequence
import Capability.Proofs.Text.Lossy
import Capability.Proofs.Check.Message
import Capability.Proofs.Json.Grammar
import Capability.Proofs.Json.Skip
import Capability.Proofs.Json.Exactness
import Capability.Proofs.Json.Account
import Capability.Proofs.Json.Layout
import Capability.Proofs.Registry.Layout
import Capability.Proofs.Naming.CamelCase
import Capability.Proofs.Code.Item
import Capability.Proofs.Registration.BareName
import Capability.Proofs.Naming.Blanks
import Capability.Proofs.Table.Selection
