import RouteHighlight.Config.Decode
import RouteHighlight.Proofs.Config.Merge

/-!
# Values of a field's own type

Where the four entries of a lexer are a text, two lists of texts and a truth value, nothing has to
be converted, and the lexer is read off.
-/

namespace RouteHighlight.Config

namespace Value

def text? : Value → Option String
  | .scalar _ (.text s) => some s
  | _ => none

def texts? : Value → Option (List String)
  | .list _ items => items.mapM text?
  | _ => none

def bool? : Value → Option Bool
  | .scalar _ (.bool b) => some b
  | _ => none

end Value

variable {value : Value}

theorem decodeText_of_text? {s : String} (h : value.text? = some s) (key : Key) :
    decodeText key value = .ok s := by
  unfold Value.text? at h
  split at h
  · cases h
    rfl
  · cases h

theorem decodeBool_of_bool? {b : Bool} (h : value.bool? = some b) (key : Key) :
    decodeBool key value = .ok b := by
  unfold Value.bool? at h
  split at h
  · cases h
    rfl
  · cases h

private theorem mapM_decodeText (key : Key) (items : List Value) {texts : List String} (n : Nat)
    (h : items.mapM Value.text? = some texts) :
    ((items.zipIdx n).mapM fun (item, i) => decodeText (key.add (.index i)) item) = .ok texts := by
  induction items generalizing texts n with
  | nil => cases h; rfl
  | cons item items ih =>
      rw [List.mapM_cons] at h
      obtain ⟨s, hs, h⟩ := Option.bind_eq_some_iff.1 h
      obtain ⟨others, hothers, h⟩ := Option.bind_eq_some_iff.1 h
      cases h
      rw [List.zipIdx_cons, List.mapM_cons, ih (n + 1) hothers]
      simp only [decodeText_of_text? hs]
      rfl

theorem decodeTexts_of_texts? {texts : List String} (h : value.texts? = some texts) (key : Key) :
    decodeTexts key value = .ok texts := by
  unfold Value.texts? at h
  split at h
  · exact mapM_decodeText key _ 0 h
  · cases h

/-! ## The fields of a lexer -/

inductive Field : Type → Type where
  | name : Field String
  | aliases : Field (List String)
  | filenames : Field (List String)
  | resetOnNewline : Field Bool

namespace Field

variable {α : Type}

def label : Field α → String
  | name => "name"
  | aliases => "aliases"
  | filenames => "filenames"
  | resetOnNewline => "reset_on_newline"

/-- What a value is as a value of the field's own type. -/
def view? : Field α → Value → Option α
  | name => Value.text?
  | aliases => Value.texts?
  | filenames => Value.texts?
  | resetOnNewline => Value.bool?

def of : Field α → LexerConfig → α
  | name => LexerConfig.name
  | aliases => LexerConfig.aliases
  | filenames => LexerConfig.filenames
  | resetOnNewline => LexerConfig.resetOnNewline

end Field

theorem decodeRoot_of_fields {root lexer : Value} {config : LexerConfig} (htable : lexer.IsTable)
    (hroot : root.entry? "lexer" = some lexer)
    (hfields : ∀ {α : Type} (field : Field α),
      ∃ value, lexer.entry? field.label = some value ∧
        field.view? value = some (field.of config)) :
    decodeRoot root = .ok config := by
  obtain ⟨origin, entries, rfl⟩ := htable
  obtain ⟨name, hname, hnameView⟩ := hfields .name
  obtain ⟨aliases, haliases, haliasesView⟩ := hfields .aliases
  obtain ⟨filenames, hfilenames, hfilenamesView⟩ := hfields .filenames
  obtain ⟨reset, hreset, hresetView⟩ := hfields .resetOnNewline
  simp only [Field.label] at hname haliases hfilenames hreset
  rw [decodeRoot, hroot]
  simp only [decodeLexer, decodeFields, hname, haliases, hfilenames, hreset,
    decodeFields.convert, decodeText_of_text? hnameView, decodeTexts_of_texts? haliasesView,
    decodeTexts_of_texts? hfilenamesView, decodeBool_of_bool? hresetView]
  rfl

end RouteHighlight.Config
