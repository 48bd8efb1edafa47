import Shapewright.Proofs.Settings.Namespace
import Shapewright.Proofs.Source.Switch
import Shapewright.Proofs.Source.Words

/-!
# The lines of the source

The texts of all lines of a source, declaration by declaration, and the words that each kind of line
has.
-/
namespace Shapewright.Source
open Identifier Layout Plan Dispatch TypeText
open Shape (nonNull)

variable {p : Plan}

def settingsTexts (p : Plan) : List String :=
  ["static JsonSerializerSettings Settings = new JsonSerializerSettings", "\x7b",
    "MetadataPropertyHandling = MetadataPropertyHandling.Ignore,",
    "DateParseHandling = DateParseHandling.None,"] ++
  (if p.unions.isEmpty then [] else [registration]) ++ ["\x7d;"]

def convertHeader : String := "public static class Convert"

def entryTexts (p : Plan) : List String :=
  [convertHeader, "\x7b", entryLine (p.typeFor p.graph.topLevel), ""] ++ settingsTexts p ++ ["\x7d"]

def checkLine (name : String) : String := "if (" ++ typeCheck name ++ ")"

def buildLine (name : String) : String := "return new " ++ name ++ "(reader, serializer);"

def readTexts (names : List String) : List String :=
  [readHeader, "\x7b"] ++ names.flatMap (fun name => [checkLine name, buildLine name]) ++
    ["throw new Exception(\"Unknown type\");", "\x7d"]

def converterHeader : String := "public class Converter : JsonConverter"

def converterTexts (names : List String) : List String :=
  [converterHeader, "\x7b", canConvertLine names, ""] ++ readTexts names ++
    ["", writeHeader, "\x7b", "throw new NotImplementedException();", "\x7d", "\x7d"]

def propertyTexts (p : Plan) (c : RecordClass) (e : Text × Shape) : List String :=
  [attributeLine e.1, propertyLine (p.typeFor e.2) (p.propertyFor c e.1)]

def recordTexts (p : Plan) (c : RecordClass) : List String :=
  [recordHeader (p.classFor c), "\x7b"] ++ c.properties.flatMap (propertyTexts p c) ++ ["\x7d"]

def unionTexts (p : Plan) (u : Shape) : List String :=
  [structHeader (p.unionFor u), "\x7b"] ++ structTexts p u ++ ["\x7d"]

/-- The declarations behind the entry point, one list each. -/
def laterTexts (p : Plan) : List (List String) :=
  (if p.unions.isEmpty then [] else [converterTexts (p.unions.map p.unionFor)]) ++
    p.graph.classes.map (recordTexts p) ++ p.unions.map (unionTexts p)

def headTexts (s : Settings) : List String :=
  (if s.headerComment then commentLines s.namespaceName else []) ++
    ["namespace " ++ s.namespaceName, "\x7b"] ++
    systemUsings ++ [""] ++ jsonUsings ++ [""]

def sourceTexts (p : Plan) (s : Settings) : List String :=
  headTexts s ++ entryTexts p ++ (laterTexts p).flatMap ("" :: ·) ++ ["\x7d"]

theorem entryPart_texts (p : Plan) (level : Nat) :
    (allLines level (entryPart p)).map (·.text) = entryTexts p := by
  simp only [entryPart, entryTexts, settingsTexts, convertHeader]
  cases p.unions.isEmpty <;> simp [allLines, Op.linesAt]

theorem branches_texts (names : List String) (level : Nat) :
    (allLines level (names.flatMap branchOps)).map (·.text) =
      names.flatMap fun name => [checkLine name, buildLine name] := by
  induction names with
  | nil => rfl
  | cons name names ih =>
    rw [List.flatMap_cons, allLines_append, List.map_append, ih]
    simp [branchOps, allLines, Op.linesAt, checkLine, buildLine]

theorem converterPart_texts (names : List String) (level : Nat) :
    (allLines level (converterPart names)).map (·.text) = converterTexts names := by
  have branches := branches_texts names (level + 1 + 1)
  simp [converterPart, converterTexts, readTexts, converterHeader, allLines_append, allLines,
    Op.linesAt, branches]

theorem properties_texts (p : Plan) (c : RecordClass) (es : Entries Text Shape) (level : Nat) :
    (allLines level (es.flatMap (propertyPart p c))).map (·.text) =
      es.flatMap (propertyTexts p c) := by
  induction es with
  | nil => rfl
  | cons e es ih =>
    rw [List.flatMap_cons, allLines_append, List.map_append, ih]
    simp [propertyPart, propertyTexts, allLines, Op.linesAt]

theorem recordPart_texts (p : Plan) (c : RecordClass) (level : Nat) :
    (allLines level (recordPart p c)).map (·.text) = recordTexts p c := by
  have body := properties_texts p c c.properties (level + 1)
  simp [recordPart, recordTexts, allLines, Op.linesAt, body]

theorem structPart_texts (p : Plan) (u : Shape) (level : Nat) :
    (allLines level (structPart p u)).map (·.text) = unionTexts p u := by
  have body := structBody_texts p u (level + 1)
  simp [structPart, unionTexts, structTexts, allLines, Op.linesAt, body]

theorem partsLines_texts (parts : List (List Op)) (level : Nat) :
    (partsLines false level parts).map (·.text) =
      (parts.map fun part => (allLines level part).map (·.text)).flatMap ("" :: ·) := by
  induction parts with
  | nil => rfl
  | cons part parts ih => simp [partsLines, ih]

theorem head_texts (s : Settings) : (sourceHead s).map (·.text) = headTexts s := by
  have comments : (allLines 0 (headerOps s)).map (·.text) =
      if s.headerComment then commentLines s.namespaceName else [] := by
    unfold headerOps
    split <;> simp [allLines, Op.linesAt, Function.comp_def]
  simp [sourceHead, headTexts, comments, Function.comp_def]

theorem sourceLines_texts (p : Plan) (s : Settings) :
    (sourceLines p s).map (·.text) = sourceTexts p s := by
  have later : (conversionParts p).tail ++ p.graph.classes.map (recordPart p) ++
      p.unions.map (structPart p) =
      (sourceParts p (conversionParts p)).tail := rfl
  have texts :
      ((sourceParts p (conversionParts p)).tail.map fun part => (allLines 1 part).map (·.text)) =
      laterTexts p := by
    rw [← later, laterTexts]
    simp only [List.map_append, List.map_map, Function.comp_def, recordPart_texts, structPart_texts,
      conversionParts, List.tail_cons]
    cases p.unions.isEmpty <;> simp [converterPart_texts]
  have split : partsLines true 1 (sourceParts p (conversionParts p)) =
      allLines 1 (entryPart p) ++ partsLines false 1 (sourceParts p (conversionParts p)).tail := rfl
  rw [sourceLines, sourceOps_lines, split]
  simp only [List.map_append, head_texts, entryPart_texts, partsLines_texts, texts, sourceTexts,
    List.map_cons, List.map_nil, text_lineAt, List.append_assoc]

section Words

theorem append_three (a b c : String) : a ++ b ++ c = a ++ (b ++ c) := by
  simp only [String.append_assoc]

theorem append_four (a b c d : String) : a ++ b ++ c ++ d = a ++ (b ++ (c ++ d)) := by
  simp only [String.append_assoc]

theorem append_five (a b c d e : String) : a ++ b ++ c ++ d ++ e = a ++ (b ++ (c ++ (d ++ e))) := by
  simp only [String.append_assoc]

variable {type name : String}

/-- What follows the first words of a line with a type expression is left open. -/
theorem words_entryLine_front (type : String) :
    ∃ more, words (entryLine type) = "public" :: "static" :: more := by
  rw [show entryLine type = _ from append_five _ _ _ _ _, words_lead (by decide)]
  exact ⟨_, rfl⟩

theorem words_propertyLine_front (type name : String) :
    ∃ more, words (propertyLine type name) = "public" :: more := by
  rw [show propertyLine type name = _ from append_five _ _ _ _ _, words_lead (by decide)]
  exact ⟨_, rfl⟩

theorem words_fieldLine_front (type name : String) :
    ∃ more, words (fieldLine type name) = "public" :: more := by
  rw [show fieldLine type name = _ from append_five _ _ _ _ _, words_lead (by decide)]
  exact ⟨_, rfl⟩

theorem words_assignLine_front (type : String) (valid : IsValid name) :
    ∃ more, words (assignLine name type) = name :: "serializer" :: "Deserialize" :: more := by
  obtain ⟨plain, word⟩ := words_valid valid
  rw [show assignLine name type = _ from append_four _ _ _ _, words_then_more plain (by decide),
    words_lead (by decide), word]
  exact ⟨_, rfl⟩

theorem words_entryLine (plain : IsPlain type) :
    words (entryLine type) = ["public", "static"] ++ words type ++
      ["FromJson", "string", "json", "JsonConvert", "DeserializeObject"] ++ words type ++ ["json",
        "Settings"] := by
  rw [show entryLine type = _ from append_five _ _ _ _ _, words_lead (by decide),
    words_then_more plain (by decide), words_lead (by decide), words_then plain (by decide),
    words_ascii (by decide)]
  simp only [List.append_assoc]
  rfl

theorem words_propertyLine (plain : IsPlain type) (valid : IsValid name) :
    words (propertyLine type name) = "public" :: words type ++ [name, "get", "set"] := by
  obtain ⟨plainName, word⟩ := words_valid valid
  rw [show propertyLine type name = _ from append_five _ _ _ _ _, words_lead (by decide),
    words_then_more plain (by decide), words_lead (by decide), words_then plainName (by decide),
    words_ascii (by decide), word]
  rfl

theorem words_fieldLine (plain : IsPlain type) (valid : IsValid name) :
    words (fieldLine type name) = "public" :: words type ++ [name] := by
  obtain ⟨plainName, word⟩ := words_valid valid
  rw [show fieldLine type name = _ from append_five _ _ _ _ _, words_lead (by decide),
    words_then_more plain (by decide), words_lead (by decide), words_then plainName (by decide),
    words_ascii (by decide), word]
  rfl

theorem words_assignLine (plain : IsPlain type) (valid : IsValid name) :
    words (assignLine name type) =
      [name, "serializer", "Deserialize"] ++ words type ++ ["reader"] := by
  obtain ⟨plainName, word⟩ := words_valid valid
  rw [show assignLine name type = _ from append_four _ _ _ _, words_then_more plainName (by decide),
    words_lead (by decide), words_then plain (by decide), words_ascii (by decide), word]
  rfl

theorem words_clearLine (valid : IsValid name) : words (clearLine name) = [name, "null"] := by
  obtain ⟨plain, word⟩ := words_valid valid
  rw [clearLine, words_then plain (by decide), words_ascii (by decide), word]
  rfl

theorem words_attributeLine (key : Text) : words (attributeLine key) = ["JsonProperty"] := by
  rw [show attributeLine key = _ from append_three _ _ _, words_lead (by decide), words_quote,
    words_ascii (by decide)]
  rfl

theorem words_throwLine (message : Text) :
    words ("throw new Exception(" ++ Literal.quote message ++ ");") =
      ["throw", "new", "Exception"] := by
  have done : words ");" = [] := words_ascii rfl
  rw [append_three, words_lead (by decide), words_quote, done]
  rfl

theorem words_refusalLine (name : String) :
    words (refusalLine name) = ["throw", "new", "Exception"] :=
  words_throwLine _

theorem words_recordHeader (valid : IsValid name) :
    words (recordHeader name) = ["public", "partial", "class", name] := by
  change words ("public partial class " ++ name) = _
  rw [words_lead (by decide), (words_valid valid).2]
  rfl

theorem words_structHeader (valid : IsValid name) :
    words (structHeader name) = ["public", "struct", name] := by
  change words ("public struct " ++ name) = _
  rw [words_lead (by decide), (words_valid valid).2]
  rfl

theorem words_constructorHeader (valid : IsValid name) :
    words (constructorHeader name) = ["public", name, "JsonReader", "reader", "JsonSerializer",
      "serializer"] := by
  obtain ⟨plain, word⟩ := words_valid valid
  rw [show constructorHeader name = _ from append_three _ _ _, words_lead (by decide),
    words_then plain (by decide), words_ascii (by decide), word]
  rfl

theorem words_caseLabel (t : Token) : words (caseLabel t) = ["case", "JsonToken", t.name] := by
  have valid : IsValid t.name := by cases t <;> decide
  obtain ⟨plain, word⟩ := words_valid valid
  rw [show caseLabel t = _ from append_three _ _ _, words_lead (by decide),
    words_then plain (by decide), words_ascii (by decide), word]
  rfl

theorem words_typeCheck (valid : IsValid name) :
    IsPlain (typeCheck name) ∧ words (typeCheck name) = ["t", "typeof", name] := by
  obtain ⟨plain, word⟩ := words_valid valid
  have front : IsPlain "t == typeof(" := by decide
  have back : IsPlain ")" := by decide
  refine ⟨(front.append plain).append back, ?_⟩
  rw [show typeCheck name = _ from append_three _ _ _, words_lead (by decide),
    words_then plain (by decide), words_ascii (by decide), word]
  rfl

theorem words_checkLine (valid : IsValid name) :
    words (checkLine name) = ["if", "t", "typeof", name] := by
  obtain ⟨plain, check⟩ := words_typeCheck valid
  rw [show checkLine name = _ from append_three _ _ _, words_lead (by decide),
    words_then plain (by decide), words_ascii (by decide), check]
  rfl

theorem words_buildLine (valid : IsValid name) :
    words (buildLine name) = ["return", "new", name, "reader", "serializer"] := by
  obtain ⟨plain, word⟩ := words_valid valid
  rw [show buildLine name = _ from append_three _ _ _, words_lead (by decide),
    words_then plain (by decide), words_ascii (by decide), word]
  rfl

theorem words_readHeader :
    words readHeader = ["public", "override", "object", "ReadJson", "JsonReader", "reader", "Type",
      "t", "object", "existingValue", "JsonSerializer", "serializer"] :=
  (words_ascii rfl).trans rfl

theorem words_checks {names : List String} (valid : ∀ name ∈ names, IsValid name) :
    IsPlain (" || ".intercalate (names.map typeCheck)) ∧
      words (" || ".intercalate (names.map typeCheck)) = names.flatMap fun name =>
        ["t", "typeof", name] := by
  induction names with
  | nil => exact ⟨fun _ inside => absurd inside List.not_mem_nil, rfl⟩
  | cons name names ih =>
    obtain ⟨here, others⟩ := List.forall_mem_cons.mp valid
    obtain ⟨plain, check⟩ := words_typeCheck here
    obtain ⟨plainRest, rest⟩ := ih others
    cases names with
    | nil => simpa using ⟨plain, check⟩
    | cons next names =>
      have bars : IsPlain " || " := by decide
      rw [List.map_cons, List.map_cons, String.intercalate_cons_cons, ← List.map_cons]
      refine ⟨(plain.append bars).append plainRest, ?_⟩
      rw [append_three, words_then_more plain (by decide), words_lead (by decide), check, rest]
      rfl

theorem words_canConvertLine {names : List String} (valid : ∀ name ∈ names, IsValid name) :
    words (canConvertLine names) = ["public", "override", "bool", "CanConvert", "Type", "t"] ++
      names.flatMap fun name => ["t", "typeof", name] := by
  obtain ⟨plain, checks⟩ := words_checks valid
  have done : words ";" = [] := words_ascii rfl
  rw [show canConvertLine names = _ from append_three _ _ _, words_lead (by decide),
    words_then plain (by decide), done, checks, List.append_nil]
  rfl

/-- Where the segments of a dotted name hold no break, they are its words. -/
theorem pieces_eq_segments {cs : List Char}
    (h : ∀ segment ∈ Settings.segments cs, ∀ c ∈ segment, isContinue c) :
    Word.pieces isContinue cs = Settings.segments cs := by
  induction cs with
  | nil => rfl
  | cons c cs ih =>
    rw [Word.pieces, Settings.segments]
    rw [Settings.segments] at h
    by_cases dot : c = '.'
    · have apart : isContinue c = false := isContinue_of_isBreak (by rw [dot]; decide)
      rw [if_pos dot] at h ⊢
      rw [if_neg (by simp [apart]),
        ih fun segment inside => h segment (List.mem_cons_of_mem _ inside)]
    · rw [if_neg dot] at h ⊢
      cases split : Settings.segments cs with
      | nil =>
        have none : Word.pieces isContinue cs = [] := by
          rw [ih (by simp [split]), split]
        exact absurd none (Word.pieces_ne_nil _ _)
      | cons first rest =>
        rw [split] at h
        obtain ⟨here, others⟩ := List.forall_mem_cons.mp h
        obtain ⟨hc, inFirst⟩ := List.forall_mem_cons.mp here
        have same : Word.pieces isContinue cs = first :: rest := by
          rw [ih (by simpa [split] using ⟨inFirst, others⟩), split]
        rw [if_pos hc, same]

theorem mem_segments {c : Char} {cs : List Char} (h : c ∈ cs) :
    c = '.' ∨ ∃ segment ∈ Settings.segments cs, c ∈ segment := by
  induction cs with
  | nil => cases h
  | cons d cs ih =>
    rw [Settings.segments]
    split
    · next dot =>
      rcases List.mem_cons.mp h with rfl | h
      · exact .inl dot
      · exact (ih h).imp_right fun ⟨segment, inside, hc⟩ =>
          ⟨segment, List.mem_cons_of_mem _ inside, hc⟩
    · split
      · next none =>
        rcases List.mem_cons.mp h with rfl | h
        · exact .inr ⟨[c], List.mem_cons_self, List.mem_cons_self⟩
        · exact (ih h).imp_right fun ⟨segment, inside, _⟩ => by simp [none] at inside
      · next first rest split =>
        rcases List.mem_cons.mp h with rfl | h
        · exact .inr ⟨c :: first, List.mem_cons_self, List.mem_cons_self⟩
        · refine (ih h).imp_right fun ⟨segment, inside, hc⟩ => ?_
          rw [split] at inside
          rcases List.mem_cons.mp inside with rfl | inside
          · exact ⟨d :: segment, List.mem_cons_self, List.mem_cons_of_mem _ hc⟩
          · exact ⟨segment, List.mem_cons_of_mem _ inside, hc⟩

/-- The words of a dotted name are the identifiers between its dots. -/
theorem words_dotted {ns : String} (dotted : Settings.IsDotted ns) :
    words ns = (Settings.segments ns.toList).map String.ofList := by
  have valid : ∀ segment ∈ Settings.segments ns.toList, validChars segment := by
    intro segment inside
    have usable := (dotted segment inside).1
    rwa [IsValid, String.toList_ofList] at usable
  have each : ∀ segment ∈ Settings.segments ns.toList, ∀ c ∈ segment, isContinue c :=
    fun segment inside =>
    List.all_eq_true.mp (all_isContinue (valid segment inside))
  have plain : IsPlain ns := by
    intro c hc
    rcases mem_segments hc with rfl | ⟨segment, inside, hc⟩
    · decide
    · exact plain_of_isContinue (each segment inside c hc)
  have filled : ∀ segment ∈ Settings.segments ns.toList, !segment.isEmpty := by
    intro segment inside
    cases segment with
    | nil => cases valid [] inside
    | cons c cs => rfl
  rw [words, visible_of_plain plain, runs, pieces_eq_segments each, List.filter_eq_self.mpr filled]

theorem words_namespaceLine {ns : String} (dotted : Settings.IsDotted ns) :
    words ("namespace " ++ ns) =
      "namespace" :: (Settings.segments ns.toList).map String.ofList := by
  rw [words_lead (by decide), words_dotted dotted]
  rfl

end Words

end Shapewright.Source
