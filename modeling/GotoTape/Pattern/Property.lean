import GotoTape.Pattern.CharSet
import GotoTape.Ucd.Aliases
import GotoTape.Ucd.Age
import GotoTape.Ucd.Breaks
import GotoTape.Ucd.Script
import GotoTape.Ucd.ScriptExtensions
/-!
# Unicode property classes

The classes `\p{…}` names. Names are compared in loose form: ASCII case, blanks, `_` and `-` do
not count, nor a leading `is`, and characters beyond ASCII are dropped.

A bare name is tried as a property, then as a general category, then as a script; the two-letter
names `cf`, `sc` and `lc` are always general categories. A known property that is not binary is
refused as not found. `name=value` (or `name:value`) first finds the property, then its value:
a general category, a script, the scripts a character is used with, an age (every character
assigned up to that version), or a grapheme cluster, word or sentence break class.

A name that is known but has no characters, such as the surrogate category or the script of
characters shared by Hiragana and Katakana, is refused as a value not found.
-/

namespace GotoTape
namespace Pattern

/-- Why a property name is refused: no such property, or no such value of it. -/
inductive PropertyFault where
  | notFound
  | valueNotFound
  deriving DecidableEq, Repr

/-- A property name in loose form: ASCII lowercase without blanks, `_`, `-`, characters beyond
ASCII or a leading `is`; `isc` is kept whole, being a name of its own. -/
def looseName (s : String) : String :=
  let cs := s.toList
  let hasIs := cs.length ≥ 2 && (cs.take 2).map Char.toLower == ['i', 's']
  let body := if hasIs then cs.drop 2 else cs
  let kept := (body.filter fun c => c != ' ' && c != '_' && c != '-' && c.toNat < 128).map
    Char.toLower
  if hasIs && kept == ['c'] then "isc" else String.ofList kept

/-- The full name of the property a loose name stands for. -/
def propertyOf? (loose : String) : Option String :=
  Ucd.textNamed? (Ucd.namesOfText Ucd.propertyNameText) loose

/-- The full name of the value a loose name stands for, among the named values of a property. -/
def valueOf? (property loose : String) : Option String :=
  (Ucd.textNamed? Ucd.propertyValueTexts property).bind fun text =>
    Ucd.textNamed? (Ucd.namesOfText text) loose

/-- The full name of the general category a loose name stands for; `any`, `assigned` and
`ascii` name three sets of their own. -/
def categoryOf? (loose : String) : Option String :=
  match loose with
  | "any" => some "Any"
  | "assigned" => some "Assigned"
  | "ascii" => some "ASCII"
  | _ => valueOf? "General_Category" loose

/-- A class query with its names made full. -/
inductive Resolved where
  | binary (property : String)
  | category (name : String)
  | script (name : String)
  | value (property value : String)
  deriving DecidableEq, Repr

/-- What a bare name stands for: a property, else a general category, else a script. -/
def resolveName (name : String) : Except PropertyFault Resolved :=
  let n := looseName name
  let property := if n == "cf" || n == "sc" || n == "lc" then none else propertyOf? n
  match property with
  | some p => .ok (.binary p)
  | none =>
    match categoryOf? n with
    | some c => .ok (.category c)
    | none =>
      match valueOf? "Script" n with
      | some s => .ok (.script s)
      | none => .error .notFound

/-- What `property=value` stands for. -/
def resolveValue (property value : String) : Except PropertyFault Resolved :=
  let v := looseName value
  match propertyOf? (looseName property) with
  | none => .error .notFound
  | some "General_Category" =>
    match categoryOf? v with
    | some c => .ok (.category c)
    | none => .error .valueNotFound
  | some "Script" =>
    match valueOf? "Script" v with
    | some s => .ok (.script s)
    | none => .error .valueNotFound
  | some p =>
    match valueOf? p v with
    | some full => .ok (.value p full)
    | none => .error .valueNotFound

/-- The set of a named table; a name without a table is refused with `fault`. -/
def tableSet (texts : List (String × String)) (name : String) (fault : PropertyFault) :
    Except PropertyFault CharSet :=
  match Ucd.textNamed? texts name with
  | some text => .ok (CharSet.ofTable (Ucd.RangeTable.ofText text))
  | none => .error fault

/-- The categories a general category joins: its members for a group, itself otherwise. -/
def categoryMembers : String → List String
  | "Letter" =>
    ["Uppercase_Letter", "Lowercase_Letter", "Titlecase_Letter", "Modifier_Letter", "Other_Letter"]
  | "Cased_Letter" => ["Uppercase_Letter", "Lowercase_Letter", "Titlecase_Letter"]
  | "Mark" => ["Nonspacing_Mark", "Spacing_Mark", "Enclosing_Mark"]
  | "Number" => ["Decimal_Number", "Letter_Number", "Other_Number"]
  | "Punctuation" =>
    ["Connector_Punctuation", "Dash_Punctuation", "Open_Punctuation", "Close_Punctuation",
      "Initial_Punctuation", "Final_Punctuation", "Other_Punctuation"]
  | "Symbol" => ["Math_Symbol", "Currency_Symbol", "Modifier_Symbol", "Other_Symbol"]
  | "Separator" => ["Space_Separator", "Line_Separator", "Paragraph_Separator"]
  | "Other" => ["Control", "Format", "Private_Use", "Unassigned"]
  | name => [name]

/-- The characters of a general category, by its full name. -/
def categorySet (name : String) : Except PropertyFault CharSet :=
  let members (names : List String) : Except PropertyFault CharSet :=
    (names.mapM fun n => tableSet Ucd.categoryTexts n .valueNotFound).map CharSet.unionAll
  match name with
  | "Any" => .ok CharSet.all
  | "ASCII" => .ok (CharSet.span 0 0x7F)
  | "Assigned" => (members ["Unassigned"]).map CharSet.compl
  | _ => members (categoryMembers name)

/-- The characters assigned by a version or an earlier one, by the version's full name. -/
def ageSet (version : String) : Except PropertyFault CharSet :=
  match Ucd.ageTexts.findIdx? (·.1 == version) with
  | some i =>
    .ok (CharSet.unionAll ((Ucd.ageTexts.take (i + 1)).map fun (_, text) =>
      CharSet.ofTable (Ucd.RangeTable.ofText text)))
  | none => .error .valueNotFound

/-- The characters a resolved query names. -/
def Resolved.set : Resolved → Except PropertyFault CharSet
  | .binary p => tableSet Ucd.binaryPropertyTexts p .notFound
  | .category c => categorySet c
  | .script s => tableSet Ucd.scriptTexts s .valueNotFound
  | .value "Age" v => ageSet v
  | .value "Script_Extensions" v => tableSet Ucd.scriptExtensionTexts v .valueNotFound
  | .value "Grapheme_Cluster_Break" v => tableSet Ucd.graphemeClusterBreakTexts v .valueNotFound
  | .value "Word_Break" v => tableSet Ucd.wordBreakTexts v .valueNotFound
  | .value "Sentence_Break" v => tableSet Ucd.sentenceBreakTexts v .valueNotFound
  | .value _ _ => .error .notFound

/-- The set a Unicode class names, before any negation it carries. -/
def Query.set (q : Query) : Except PropertyFault CharSet := do
  let resolved ← match q with
    | .letter c => resolveName (String.singleton c)
    | .name n => resolveName n
    | .value p v _ => resolveValue p v
  resolved.set

end Pattern
end GotoTape
