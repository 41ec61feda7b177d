/-
Configurations as documents.

The document has a table for the source and one for what is logged; other keys are
ignored.  Either table may be written as the list of its fields in order.  Fields of
the source that are missing have their standard values; a list of what is logged has
all its fields.
-/
import PullStreams.Config
import PullStreams.Error
import PullStreams.Number.Power
import PullStreams.Toml.Document

namespace PullStreams

open Toml

/-- A 64-bit word. -/
def wordOf? (value : Value) : Option Nat := do
  let n ← value.integer?
  if 0 ≤ n ∧ n < wordCount then some n.toNat else none

/-- A list of texts. -/
def textsOf? (value : Value) : Option (List String) := do
  (← value.list?).mapM Value.text?

namespace SourceConfig

/-- The names of the fields, in order. -/
def fieldNames : List String :=
  ["probe_chunk_size", "read_buffer_size", "reordered_mime_types", "executor_thread_name",
    "read_thread_name"]

/-- The configuration with one field set. -/
def setField (c : SourceConfig) (field : String × Value) : Option SourceConfig :=
  let (name, value) := field
  match name with
  | "probe_chunk_size" => do return { c with probeChunkSize := ← wordOf? value }
  | "read_buffer_size" => do return { c with readBufferSize := ← wordOf? value }
  | "reordered_mime_types" => do return { c with reorderedMimeTypes := ← textsOf? value }
  | "executor_thread_name" => do return { c with executorThreadName := ← value.text? }
  | "read_thread_name" => do return { c with readThreadName := ← value.text? }
  | _ => some c

/-- The fields that a value gives, by name. -/
def fieldsOf? (value : Value) : Option Fields :=
  match value.list? with
  | some items => if fieldNames.length < items.length then none else some (fieldNames.zip items)
  | none => value.fields?

def ofValue? (value : Value) : Option SourceConfig := do
  (← fieldsOf? value).foldlM setField standard

end SourceConfig

namespace LoggingConfig

/-- A text, if there is a value. -/
def textField? : Option Value → Option (Option String)
  | none => some none
  | some value => value.text?.map some

def ofValue? (value : Value) : Option LoggingConfig :=
  match value.list? with
  | some [level, filters] => do
    return { level := ← textField? (some level), filters := ← textField? (some filters) }
  | some _ => none
  | none => do
    let fields ← value.fields?
    return {
      level := ← textField? (fields.lookup "level")
      filters := ← textField? (fields.lookup "filters") }

end LoggingConfig

namespace Config

/-- The configuration that the fields of a document give. -/
def ofFields? (fields : Fields) : Option Config := do
  let source ← match fields.lookup "source" with
    | none => some SourceConfig.standard
    | some value => SourceConfig.ofValue? value
  let logging ← match fields.lookup "logging" with
    | none => some none
    | some value => (LoggingConfig.ofValue? value).map some
  return { source, logging }

/-- What is said of a text that gives no configuration. -/
def faultText : Fault → String
  | .malformed => "TOML"
  | .longKey => "recursion limit\n"

/-- The configuration of a document. -/
def parse (text : String) : Except SourceError Config := do
  let fields ← (Toml.parse text).mapError (.config ∘ faultText)
  match ofFields? fields with
  | some config => return config
  | none => throw (.config (faultText .malformed))

end Config
end PullStreams
