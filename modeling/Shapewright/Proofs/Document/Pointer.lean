import Shapewright.Document.Reader
import Shapewright.Proofs.Number.Decimal

/-!
# Pointers

How the place of a fault is read: a text of steps, each behind a slash, that leads from a node to a
node inside it. A pointer that was written for a path leads where the path leads.
-/
namespace Shapewright.Document

/-- Reads `~` and the digit as the character that they stand for. -/
def substitute (digit meant : Char) : List CodePoint → List CodePoint
  | [] => []
  | [c] => [c]
  | c :: d :: rest =>
    if c = .char '~' ∧ d = .char digit then .char meant :: substitute digit meant rest
    else c :: substitute digit meant (d :: rest)

/-- The slash comes first: `~01` is written for `~1`, and stands for no slash. -/
def unescape (token : List CodePoint) : List CodePoint :=
  substitute '0' '~' (substitute '1' '/' token)

/-- The steps of a pointer, which is empty or begins with a slash. -/
def steps? (place : Text) : Option (List Text) :=
  match place.points.splitOn (.char '/') with
  | [] :: tokens => some (tokens.map fun token => ⟨unescape token⟩)
  | _ => none

/-- The number that a token of decimal digits stands for. -/
def index? (token : Text) : Option Nat :=
  let digits := token.mended.toList
  if !digits.isEmpty && digits.all Decimal.isDigit then some (Decimal.ofDigits digits) else none

/-- The node one step below a node, under a key or at an index. -/
def child? (node : Json) (token : Text) : Option Json :=
  match node with
  | .object fields => nodeUnder? token fields
  | .array nodes => (index? token).bind (nodes[·]?)
  | _ => none

def follow (path : List Text) (node : Json) : Option Json := path.foldlM child? node

/-- The node that a pointer leads to. -/
def resolve (place : Text) (node : Json) : Option Json := (steps? place).bind (follow · node)

theorem substitute_cons {digit meant : Char} {c : CodePoint} (h : c ≠ .char '~')
    (rest : List CodePoint) :
    substitute digit meant (c :: rest) = c :: substitute digit meant rest := by
  cases rest with
  | nil => rfl
  | cons d rest => rw [substitute, if_neg fun mark => h mark.1]

/-- Reading the slashes leaves the other mark as it is. -/
theorem substitute_slash (points : List CodePoint) :
    substitute '1' '/' (points.flatMap escapePoint) =
      points.flatMap fun c => if c = .char '~' then [.char '~', .char '0'] else [c] := by
  induction points with
  | nil => rfl
  | cons c points ih =>
    rw [List.flatMap_cons, List.flatMap_cons, ← ih, escapePoint]
    by_cases tilde : c = .char '~'
    · have zero : CodePoint.char '0' ≠ .char '~' := by decide
      simp only [if_pos tilde, List.cons_append, List.nil_append]
      rw [substitute, if_neg (by simp), substitute_cons zero]
    · by_cases slash : c = .char '/'
      · simp [slash, substitute]
      · simp only [if_neg tilde, if_neg slash, List.singleton_append, substitute_cons tilde]

theorem substitute_tilde (points : List CodePoint) :
    substitute '0' '~'
      (points.flatMap fun c => if c = .char '~' then [.char '~', .char '0'] else [c]) = points := by
  induction points with
  | nil => rfl
  | cons c points ih =>
    rw [List.flatMap_cons]
    by_cases tilde : c = .char '~'
    · simp [tilde, substitute, ih]
    · rw [if_neg tilde, List.singleton_append, substitute_cons tilde, ih]

theorem unescape_escapeToken (token : Text) : unescape (escapeToken token) = token.points := by
  rw [unescape, escapeToken, substitute_slash, substitute_tilde]

theorem slash_not_mem_escapeToken (token : Text) : .char '/' ∉ escapeToken token := by
  intro inside
  obtain ⟨c, -, written⟩ := List.mem_flatMap.mp inside
  unfold escapePoint at written
  split at written
  · simp at written
  · split at written
    · simp at written
    · next notSlash => exact notSlash (List.mem_singleton.mp written).symm

theorem splitOn_pointer (path : List Text) {token : List CodePoint} (noSlash : .char '/' ∉ token) :
    (token ++ (pointer path).points).splitOn (.char '/') = token :: path.map escapeToken := by
  induction path generalizing token with
  | nil => simpa [pointer] using List.splitOn_eq_singleton noSlash
  | cons step path ih =>
    have rest := ih (slash_not_mem_escapeToken step)
    have split : (pointer (step :: path)).points =
        .char '/' :: (escapeToken step ++ (pointer path).points) := rfl
    rw [split, List.splitOn_append_cons_self_of_not_mem noSlash, rest, List.map_cons]

/-- A pointer is read as the path that it was written for. -/
theorem steps?_pointer (path : List Text) : steps? (pointer path) = some path := by
  have split : (pointer path).points.splitOn (.char '/') = [] :: path.map escapeToken :=
    splitOn_pointer path List.not_mem_nil
  have back : (fun token => Text.mk (unescape token)) ∘ escapeToken = id :=
    funext fun token => congrArg Text.mk (unescape_escapeToken token)
  simp only [steps?, split, List.map_map, back, List.map_id]

theorem resolve_pointer (path : List Text) (node : Json) :
    resolve (pointer path) node = follow path node := by
  rw [resolve, steps?_pointer, Option.bind_some]

theorem index?_toString (n : Nat) : index? (Text.ofString (toString n)) = some n := by
  have written : (Text.ofString (toString n)).mended.toList = Nat.toDigits 10 n := by
    simp [Text.ofString, Text.ofChars, Text.mended, CodePoint.mended, Function.comp_def]
  have digits : (Nat.toDigits 10 n).all Decimal.isDigit :=
    List.all_eq_true.mpr fun _ => Decimal.isDigit_of_mem_toDigits
  have filled : (Nat.toDigits 10 n).isEmpty = false :=
    List.isEmpty_eq_false_iff.mpr Nat.toDigits_ne_nil
  simp only [index?, written, digits, filled, Bool.not_false, Bool.and_self, if_true,
    Decimal.ofDigits_toDigits]

theorem child?_index (nodes : List Json) (n : Nat) :
    child? (.array nodes) (Text.ofString (toString n)) = nodes[n]? := by
  simp only [child?, index?_toString, Option.bind_some]

theorem follow_append (path more : List Text) (node : Json) :
    follow (path ++ more) node = (follow path node).bind (follow more) := List.foldlM_append

@[simp] theorem follow_nil (node : Json) : follow [] node = some node := rfl

@[simp] theorem follow_singleton (token : Text) (node : Json) :
    follow [token] node = child? node token := by
  simp [follow]

end Shapewright.Document
