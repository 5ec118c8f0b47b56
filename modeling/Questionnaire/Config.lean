import Questionnaire.Validation.Catalog
import Questionnaire.Rules.Eval
import Questionnaire.Json.Stream

/-!
# Config — the interpreter's settings

The limits on condition trees and the message catalog. Read from JSON with
camel-case keys, every key optional: the depth limit defaults to 16, the
node limit to 256, and the catalog to the default messages key by key.

**Main definitions.** `Config`, `Config.limits`, `Config.decode`, `Config.toValue`.
-/

namespace Questionnaire

open Json

/-- **The interpreter's settings.** -/
structure Config where
  maxConditionDepth : Nat := 16
  maxConditionNodes : Nat := 256
  messages : Validation.Catalog := {}
  deriving DecidableEq, Inhabited, Repr

namespace Config

/-- The largest count, that of a 64-bit machine word. -/
def countMax : Nat := Nat.pow 2 64 - 1

/-- The limits rules are evaluated under. -/
def limits (c : Config) : Rules.Limits := ⟨c.maxConditionDepth, c.maxConditionNodes⟩

/-- **A settings record.** -/
def decode {m : Type → Type} [Monad m] [Decoder m] : m Config :=
  Decoder.record "InterpreterConfig"
    [ { key := "maxConditionDepth", read := fun c => do
          let v ← Decoder.natUpTo countMax "usize"
          pure { c with maxConditionDepth := v } },
      { key := "maxConditionNodes", read := fun c => do
          let v ← Decoder.natUpTo countMax "usize"
          pure { c with maxConditionNodes := v } },
      { key := "messages", read := fun c => do
          let v ← Validation.Catalog.decode
          pure { c with messages := v } } ]
    {}

/-- The settings as JSON, keys in declaration order. -/
def toValue (c : Config) : Value :=
  .obj [("maxConditionDepth", .num (.nat c.maxConditionDepth)),
    ("maxConditionNodes", .num (.nat c.maxConditionNodes)),
    ("messages", c.messages.toValue)]

end Config

end Questionnaire
