import Shapewright.Dispatch.Table
import Shapewright.Proofs.Shape.Canonical

/-!
# Dispatch tables choose the first member

`admits` says which members take a token, one member at a time. The table lists each token at most
once, and what it finds for a token is the first member that admits it.
-/
namespace Shapewright.Dispatch
open Shape (nonNull)

variable {members : List Shape} {t : Token}

/-- Whether a member of the union takes values that begin with the token. -/
def admits (members : List Shape) (t : Token) : Shape → Bool
  | .null => t = .null
  | .integer => t = .integer
  | .double => t = .float || t = .integer && !members.contains .integer
  | .boolean => t = .boolean
  | .string => t = .string
  | .array _ => t = .startArray
  | .record _ => t = .startObject
  | .map _ => t = .startObject && !members.any isRecord
  | .nothing => false
  | .union _ => false

/-- In an ordered list, the first match comes before all others. -/
theorem find?_first {ms : List Shape} (ordered : Shape.Ordered ms) {p : Shape → Bool} {m : Shape}
    (found : ms.find? p = some m) {n : Shape} (hn : n ∈ ms) (matched : p n) :
    n = m ∨ m.precedes n := by
  induction ms with
  | nil => cases hn
  | cons a ms ih =>
    obtain ⟨first, rest⟩ := List.pairwise_cons.mp ordered
    rw [List.find?_cons] at found
    split at found
    · obtain rfl : a = m := Option.some.inj found
      exact (List.mem_cons.mp hn).imp_right (first n)
    · next unmatched =>
      rcases List.mem_cons.mp hn with rfl | hn
      · rw [unmatched] at matched
        cases matched
      · exact ih rest found hn

theorem find?_shape (s : Shape) (members : List Shape) :
    members.find? (· = s) = if s ∈ members then some s else none := by
  induction members with
  | nil => rfl
  | cons m members ih =>
    by_cases same : m = s
    · simp [same]
    · simp only [List.find?_cons, decide_eq_false same, ih, List.mem_cons, Ne.symm same, false_or]

theorem caseFor?_append (cases more : List Case) (t : Token) :
    caseFor? (cases ++ more) t = (caseFor? cases t).or (caseFor? more t) :=
  List.find?_append

theorem caseFor?_if (p : Prop) [Decidable p] (c : Case) (t : Token) :
    caseFor? (if p then [c] else []) t = if p ∧ t ∈ c.tokens then some c else none := by
  by_cases here : p
  · by_cases listed : t ∈ c.tokens <;> simp [caseFor?, here, listed]
  · simp [caseFor?, here]

theorem caseFor?_caseOf (members : List Shape) (s : Shape) (tokens : List Token) (t : Token) :
    caseFor? (caseOf members s tokens) t =
      if s ∈ members ∧ t ∈ tokens then some ⟨tokens, some s⟩ else none := by
  simp only [caseOf, caseFor?_if, List.contains_iff_mem]

theorem caseFor?_caseFor (member : Option Shape) (token t : Token) :
    caseFor? (caseFor member token) t =
      if t = token then member.map (⟨[token], some ·⟩) else none := by
  cases member with
  | none => simp [caseFor, caseFor?]
  | some m => by_cases same : t = token <;> simp [caseFor, caseFor?, same]

theorem find?_congr {p q : Shape → Bool} (h : ∀ m ∈ members, p m = q m) :
    members.find? p = members.find? q := by
  induction members with
  | nil => rfl
  | cons m members ih =>
    rw [List.find?_cons, List.find?_cons, h m List.mem_cons_self,
      ih fun n hn => h n (List.mem_cons_of_mem _ hn)]

theorem find?_admits_one (s : Shape) (only : ∀ m ∈ members, admits members t m = decide (m = s)) :
    members.find? (admits members t) = if s ∈ members then some s else none := by
  rw [find?_congr only, find?_shape]

theorem find?_admits_startArray :
    members.find? (admits members .startArray) = members.find? isArray := by
  have same : admits members .startArray = isArray := by
    funext m
    cases m <;> rfl
  rw [same]

/-- Maps are looked for only where there is no record. -/
theorem find?_admits_startObject : members.find? (admits members .startObject) =
    (members.find? isRecord).or (members.find? isMap) := by
  cases found : members.find? isRecord with
  | some r =>
    have record : members.any isRecord = true :=
      List.any_eq_true.mpr ⟨r, List.mem_of_find?_eq_some found, List.find?_some found⟩
    have same : admits members .startObject = isRecord := by
      funext m
      cases m <;> simp [admits, isRecord, record]
    rw [same, found, Option.some_or]
  | none =>
    have noRecord : members.any isRecord = false :=
      List.any_eq_false.mpr (List.find?_eq_none.mp found)
    have same : ∀ m ∈ members, admits members .startObject m = isMap m := by
      intro m hm
      have notRecord := List.find?_eq_none.mp found m hm
      cases m <;> simp_all [admits, isRecord, isMap]
    rw [Option.none_or]
    exact find?_congr same

/-- What a member is stored as: nothing for null, itself otherwise. -/
def stored (m : Shape) : Option Shape := if m = .null then none else some m

theorem stored_eq_some {m n : Shape} : stored n = some m ↔ n = m ∧ m ≠ .null := by
  by_cases null : n = .null
  · simp [stored, null, eq_comm]
  · simp only [stored, if_neg null, Option.some.injEq]
    exact ⟨fun same => ⟨same, same ▸ null⟩, And.left⟩

theorem map_stored {o : Option Shape} (h : o ≠ some .null) : o.map stored = o.map some := by
  cases o with
  | none => rfl
  | some m =>
    have notNull : m ≠ .null := fun same => h (congrArg some same)
    simp [stored, notNull]

/-- A table finds the first member that admits the token. -/
theorem member_caseFor? (members : List Shape) (notDate : t ≠ .date) :
    (caseFor? (table members) t).map (·.member) =
      (members.find? (admits members t)).map stored := by
  simp only [table, caseFor?_append, caseFor?_if, caseFor?_caseOf, caseFor?_caseFor]
  cases t with
  | null =>
    rw [find?_admits_one .null (by intro m hm; cases m <;> simp [admits])]
    by_cases integer : .integer ∈ members <;> by_cases null : .null ∈ members <;>
      simp [integer, null, stored]
  | integer =>
    by_cases integer : .integer ∈ members
    · rw [find?_admits_one .integer (by intro m hm; cases m <;> simp [admits, integer])]
      simp [integer, stored]
    · rw [find?_admits_one .double (by intro m hm; cases m <;> simp_all [admits])]
      by_cases double : .double ∈ members <;> simp [integer, double, stored]
  | float =>
    rw [find?_admits_one .double (by intro m hm; cases m <;> simp [admits])]
    by_cases integer : .integer ∈ members <;> by_cases double : .double ∈ members <;>
      simp [integer, double, stored]
  | boolean =>
    rw [find?_admits_one .boolean (by intro m hm; cases m <;> simp [admits])]
    by_cases integer : .integer ∈ members <;> by_cases boolean : .boolean ∈ members <;>
      simp [integer, boolean, stored]
  | string =>
    rw [find?_admits_one .string (by intro m hm; cases m <;> simp [admits])]
    by_cases integer : .integer ∈ members <;> by_cases string : .string ∈ members <;>
      simp [integer, string, stored]
  | date => exact absurd rfl notDate
  | startArray =>
    have notNull : members.find? isArray ≠ some .null := fun found => by
      cases List.find?_some found
    rw [find?_admits_startArray, map_stored notNull]
    by_cases integer : .integer ∈ members <;> simp [integer, Function.comp_def]
  | startObject =>
    have notNull : (members.find? isRecord).or (members.find? isMap) ≠ some .null := fun found => by
      rcases Option.or_eq_some_iff.mp found with found | ⟨-, found⟩ <;> cases List.find?_some found
    rw [find?_admits_startObject, map_stored notNull]
    by_cases integer : .integer ∈ members <;> simp [integer, Function.comp_def]

/-- The tokens of all cases, in order. -/
def listed (cases : List Case) : List Token := cases.flatMap (·.tokens)

theorem listed_cons (c : Case) (cases : List Case) :
    listed (c :: cases) = c.tokens ++ listed cases :=
  List.flatMap_cons

theorem listed_append (cases more : List Case) :
    listed (cases ++ more) = listed cases ++ listed more :=
  List.flatMap_append

theorem listed_caseOf (members : List Shape) (s : Shape) (tokens : List Token) :
    (listed (caseOf members s tokens)).Sublist tokens := by
  unfold caseOf
  split <;> simp [listed]

theorem listed_caseFor (member : Option Shape) (token : Token) :
    (listed (caseFor member token)).Sublist [token] := by
  cases member <;> simp [caseFor, listed]

/-- The integer token goes to one of the two numbers only. -/
theorem listed_numbers (members : List Shape) :
    (listed (caseOf members .integer [.integer]) ++
      listed (caseOf members .double (if members.contains .integer then [.float] else
        [.integer, .float]))).Sublist [.integer, .float] := by
  cases integer : members.contains .integer with
  | true =>
    exact (listed_caseOf members .integer [.integer]).append
      (listed_caseOf members .double [.float])
  | false =>
    have none : caseOf members .integer [.integer] = [] := by rw [caseOf, integer]; rfl
    rw [none]
    exact listed_caseOf members .double [.integer, .float]

/-- A table lists tokens in their usual order, so none of them twice. -/
theorem listed_table (members : List Shape) : (listed (table members)).Sublist Token.all := by
  have null : (listed (if members.contains .null then [⟨[.null], none⟩] else [])).Sublist
      [.null] := by
    split <;> simp [listed]
  simp only [table, listed_append]
  rw [List.append_assoc (listed (if members.contains .null then _ else _))]
  exact ((((null.append (listed_numbers members)).append (listed_caseOf members .boolean _)).append
    (listed_caseOf members .string _)).append (listed_caseFor _ _)).append (listed_caseFor _ _)

theorem listed_nodup (members : List Shape) : (listed (table members)).Nodup :=
  (listed_table members).nodup (by decide)

theorem mem_listed {cases : List Case} {c : Case} (hc : c ∈ cases) (ht : t ∈ c.tokens) :
    t ∈ listed cases :=
  List.mem_flatMap.mpr ⟨c, hc, ht⟩

theorem case_unique {cases : List Case} (nodup : (listed cases).Nodup) {c d : Case} (hc : c ∈ cases)
    (hd : d ∈ cases) (ht : t ∈ c.tokens) (ht' : t ∈ d.tokens) : c = d := by
  induction cases with
  | nil => cases hc
  | cons e cases ih =>
    obtain ⟨-, rest, apart⟩ := List.nodup_append.mp nodup
    rcases List.mem_cons.mp hc with rfl | later
    · rcases List.mem_cons.mp hd with rfl | later
      · rfl
      · exact absurd rfl (apart t ht t (mem_listed later ht'))
    · rcases List.mem_cons.mp hd with rfl | later'
      · exact absurd rfl (apart t ht' t (mem_listed later ht))
      · exact ih rest later later'

/-- Where no token is listed twice, the case that is found is the one that lists the token. -/
theorem caseFor?_eq_some {cases : List Case} (nodup : (listed cases).Nodup) {c : Case} :
    caseFor? cases t = some c ↔ c ∈ cases ∧ t ∈ c.tokens := by
  constructor
  · intro found
    exact ⟨List.mem_of_find?_eq_some found, by simpa using List.find?_some found⟩
  · rintro ⟨hc, ht⟩
    have there : (caseFor? cases t).isSome := List.find?_isSome.mpr ⟨c, hc, by simpa using ht⟩
    obtain ⟨d, found⟩ := Option.isSome_iff_exists.mp there
    have ht' : t ∈ d.tokens := by simpa using List.find?_some found
    rw [found, case_unique nodup hc (List.mem_of_find?_eq_some found) ht ht']

theorem isSome_caseFor? {cases : List Case} : (caseFor? cases t).isSome ↔ t ∈ listed cases := by
  simp [caseFor?, listed, List.find?_isSome]

theorem mem_caseOf {members : List Shape} {s : Shape} {tokens : List Token} {c : Case}
    (h : c ∈ caseOf members s tokens) : c.member = some s ∧ s ∈ members := by
  unfold caseOf at h
  split at h
  · next here =>
    obtain rfl := List.mem_singleton.mp h
    exact ⟨rfl, List.contains_iff_mem.mp here⟩
  · cases h

theorem mem_caseFor {member : Option Shape} {token : Token} {c : Case}
    (h : c ∈ caseFor member token) :
    c.member = member := by
  cases member with
  | none => cases h
  | some m =>
    obtain rfl := List.mem_singleton.mp h
    rfl

/-- A class among the members takes the objects. -/
theorem startObject_listed {members : List Shape} {ref : Text} (h : .record ref ∈ members) :
    .startObject ∈ listed (table members) := by
  obtain ⟨m, found⟩ :=
    Option.isSome_iff_exists.mp
      (List.find?_isSome.mpr ⟨_, h, rfl⟩ : (members.find? isRecord).isSome)
  have own :
      .startObject ∈ listed (caseFor ((members.find? isRecord).or (members.find? isMap))
        .startObject) := by
    rw [found]
    exact List.mem_cons_self
  rw [table, listed_append]
  exact List.mem_append_right _ own

/-- Every member that a table stores in is one of the union, and not null. -/
theorem member_of_mem_table {c : Case} (hc : c ∈ table members) {m : Shape}
    (hm : c.member = some m) :
    m ∈ nonNull members := by
  have certain : ∀ s tokens, s ≠ .null → c ∈ caseOf members s tokens → m ∈ nonNull members := by
    intro s tokens notNull h
    obtain ⟨stored, here⟩ := mem_caseOf h
    obtain rfl : s = m := Option.some.inj (stored.symm.trans hm)
    exact List.mem_filter.mpr ⟨here, by simpa using notNull⟩
  have found : ∀ p : Shape → Bool, p .null = false → members.find? p = some m →
      m ∈ nonNull members := by
    intro p notNull h
    refine List.mem_filter.mpr ⟨List.mem_of_find?_eq_some h, ?_⟩
    have := List.find?_some h
    exact decide_eq_true fun same => by simp [same, notNull] at this
  simp only [table, List.mem_append] at hc
  rcases hc with (((((hc | hc) | hc) | hc) | hc) | hc) | hc
  · split at hc
    · obtain rfl := List.mem_singleton.mp hc
      cases hm
    · cases hc
  · exact certain _ _ (by simp) hc
  · exact certain _ _ (by simp) hc
  · exact certain _ _ (by simp) hc
  · exact certain _ _ (by simp) hc
  · exact found isArray rfl ((mem_caseFor hc).symm.trans hm)
  · rcases Option.or_eq_some_iff.mp ((mem_caseFor hc).symm.trans hm) with h | ⟨-, h⟩
    · exact found isRecord rfl h
    · exact found isMap rfl h

end Shapewright.Dispatch
