import Shapewright.Dispatch.Decoder
import Shapewright.Proofs.Document.Accepted
import Shapewright.Proofs.Plan.Complete

/-!
# Decoders follow the first token

A decoder of a generated union gives a value to the first member that admits its token, and refuses
a value that no member admits.
-/
namespace Shapewright.Dispatch
open Plan Result

variable {p : Plan} {u m : Shape} {d : Decoder} {v : Json}

theorem of_ne_date (v : Json) : Token.of v ≠ .date := by
  cases v <;> simp [Token.of]

theorem of_eq_null (h : Token.of v = .null) : v = .null := by
  cases v with
  | null => rfl
  | _ => cases h

/-- The first member that admits the token of a value. -/
def firstAdmitting (u : Shape) (v : Json) : Option Shape :=
  (membersOf u).find? (admits (membersOf u) (.of v))

theorem firstAdmitting_eq_none :
    firstAdmitting u v = none ↔ ∀ n ∈ membersOf u, admits (membersOf u) (.of v) n = false := by
  simp [firstAdmitting, List.find?_eq_none]

theorem firstAdmitting_admits (h : firstAdmitting u v = some m) :
    m ∈ membersOf u ∧ admits (membersOf u) (.of v) m :=
  ⟨List.mem_of_find?_eq_some h, List.find?_some h⟩

theorem value_null_of_first (h : firstAdmitting u v = some .null) : v = .null := by
  have admitted := (firstAdmitting_admits h).2
  exact of_eq_null (by simpa [admits] using admitted)

theorem admits_null_only {members : List Shape} (h : admits members .null m) : m = .null := by
  cases m with
  | null => rfl
  | _ => simp [admits] at h

/-- A decoder holds the table and the name of its union. -/
theorem new_ok {name : String} (named : p.unionName u = .ok name) :
    Decoder.new p u = .ok ⟨p, u, name, table (membersOf u)⟩ := by
  rw [Decoder.new, named, ok_bind, pure_eq]

theorem decode_no_case (found : caseFor? d.cases (.of v) = none) :
    d.decode v = .error (.unconvertible d.name) := by
  simp only [Decoder.decode, found]

theorem decode_null_case {tokens : List Token}
    (found : caseFor? d.cases (.of v) = some ⟨tokens, none⟩) :
    d.decode v = .ok ⟨d.name, none, .null⟩ := by
  simp only [Decoder.decode, found]

/-- What a decoder makes of a value that goes to the field of a member. The value is kept as it
stands, but a double member keeps an integer as a double, which fails where the integer is too large
for one. -/
inductive Stores (d : Decoder) (field : String) : Shape → Json → Except DecodeError Decoded → Prop
  | same {m : Shape} (v : Json) (notDouble : m ≠ .double) :
      Stores d field m v (.ok ⟨d.name, some field, v⟩)
  | double (x : Binary64) : Stores d field .double (.double x) (.ok ⟨d.name, some field, .double x⟩)
  | converted {n : Int} {x : Binary64} (fits : Binary64.ofInt? n = some x) :
      Stores d field .double (.integer n) (.ok ⟨d.name, some field, .double x⟩)
  | tooLarge {n : Int} (large : Binary64.ofInt? n = none) :
      Stores d field .double (.integer n) (.error .tooLarge)

/-- Storing fails only where an integer is too large for a double. -/
theorem Stores.fails {field : String} {e : DecodeError} (h : Stores d field m v (.error e)) :
    e = .tooLarge ∧ ∃ n, v = .integer n ∧ Binary64.ofInt? n = none := by
  cases h with
  | tooLarge large => exact ⟨rfl, _, rfl, large⟩

theorem admits_double {members : List Shape} (h : admits members (.of v) .double) :
    (∃ x, v = .double x) ∨ ∃ n, v = .integer n := by
  cases v with
  | double x => exact .inl ⟨x, rfl⟩
  | integer n => exact .inr ⟨n, rfl⟩
  | _ => simp [admits, Token.of] at h

/-- Where the case of a token has a member, values of that token are stored in its field. -/
theorem decode_stores {tokens : List Token} {members : List Shape} {field : String}
    (found : caseFor? d.cases (.of v) = some ⟨tokens, some m⟩) (admitted : admits members (.of v) m)
    (named : d.plan.fieldName d.union m = .ok field) : Stores d field m v (d.decode v) := by
  simp only [Decoder.decode, found, named]
  by_cases double : m = .double
  · subst double
    rw [if_pos rfl]
    rcases admits_double admitted with ⟨x, rfl⟩ | ⟨n, rfl⟩
    · exact .double x
    · rw [toDouble]
      cases converted : Binary64.ofInt? n with
      | some x => exact .converted converted
      | none => exact .tooLarge converted
  · rw [if_neg double]
    exact .same v double

section Decode

variable (new : Decoder.new p u = .ok d)
include new

theorem new_fields : d.plan = p ∧ d.union = u ∧ p.unionName u = .ok d.name ∧
    d.cases = table (membersOf u) := by
  obtain ⟨name, named, h⟩ := bind_eq_ok.mp new
  cases h
  exact ⟨rfl, rfl, named, rfl⟩

theorem member_caseFor?_new (v : Json) :
    (caseFor? d.cases (.of v)).map (·.member) = (firstAdmitting u v).map stored := by
  rw [(new_fields new).2.2.2]
  exact member_caseFor? _ (of_ne_date v)

/-- The member of a case is the first that admits the token. -/
theorem first_of_case {tokens : List Token}
    (found : caseFor? d.cases (.of v) = some ⟨tokens, some m⟩) :
    firstAdmitting u v = some m := by
  have first := member_caseFor?_new new v
  rw [found, Option.map_some, eq_comm, Option.map_eq_some_iff] at first
  obtain ⟨n, first, stores⟩ := first
  obtain ⟨rfl, -⟩ := stored_eq_some.mp stores
  exact first

theorem decode_none (first : firstAdmitting u v = none) :
    d.decode v = .error (.unconvertible d.name) := by
  have found := member_caseFor?_new new v
  rw [first, Option.map_none, Option.map_eq_none_iff] at found
  exact decode_no_case found

theorem decode_null (first : firstAdmitting u v = some .null) :
    d.decode v = .ok ⟨d.name, none, .null⟩ := by
  have found := member_caseFor?_new new v
  rw [first, Option.map_some, Option.map_eq_some_iff] at found
  obtain ⟨⟨tokens, member⟩, found, stores⟩ := found
  obtain rfl : member = none := stores
  exact decode_null_case found

theorem decode_some (first : firstAdmitting u v = some m) (notNull : m ≠ .null) {field : String}
    (named : p.fieldName u m = .ok field) : Stores d field m v (d.decode v) := by
  have found := member_caseFor?_new new v
  rw [first, Option.map_some, Option.map_eq_some_iff] at found
  obtain ⟨⟨tokens, member⟩, found, stores⟩ := found
  obtain rfl : member = some m := stores.trans (stored_eq_some.mpr ⟨rfl, notNull⟩)
  obtain ⟨rfl, rfl, -⟩ := new_fields new
  exact decode_stores found (firstAdmitting_admits first).2 named

end Decode

/-- What a decoder does with a value: it refuses it, reads null, or stores it for the first member
in order that admits its token. -/
structure Dispatches (p : Plan) (u : Shape) (d : Decoder) (v : Json) : Prop where
  refused : d.decode v = .error (.unconvertible d.name) ↔
    ∀ m ∈ membersOf u, admits (membersOf u) (.of v) m = false
  null : v = .null → .null ∈ membersOf u → d.decode v = .ok ⟨d.name, none, .null⟩
  chosen : v ≠ .null → (∃ m ∈ membersOf u, admits (membersOf u) (.of v) m) →
    ∃ m ∈ membersOf u, admits (membersOf u) (.of v) m ∧
      (∀ n ∈ membersOf u, admits (membersOf u) (.of v) n → n = m ∨ m.precedes n) ∧
      ∃ field, p.fieldName u m = .ok field ∧ Stores d field m v (d.decode v)
  otherwise : ∀ e, d.decode v = .error e → e = .unconvertible d.name ∨
    e = .tooLarge ∧ ∃ n, v = .integer n ∧ Binary64.ofInt? n = none
  get : ∀ r, d.decode v = .ok r → (∀ field, r.field = some field → r.get field = r.value) ∧
    ∀ other, r.field ≠ some other → r.get other = .null

theorem get_spec (r : Decoded) : (∀ field, r.field = some field → r.get field = r.value) ∧
    ∀ other, r.field ≠ some other → r.get other = .null :=
  ⟨fun _ here => if_pos here, fun _ other => if_neg other⟩

theorem dispatches_refused (new : Decoder.new p u = .ok d) (first : firstAdmitting u v = none) :
    Dispatches p u d v := by
  have refuses := decode_none new first
  have nobody := firstAdmitting_eq_none.mp first
  refine ⟨⟨fun _ => nobody, fun _ => refuses⟩, ?_, ?_, ?_, fun r _ => get_spec r⟩
  · rintro rfl here
    exact absurd (nobody .null here) (by simp [admits, Token.of])
  · rintro - ⟨m, hm, admitted⟩
    exact absurd (nobody m hm) (by simp [admitted])
  · intro e h
    rw [refuses] at h
    cases h
    exact .inl rfl

theorem dispatches_null (new : Decoder.new p u = .ok d) (first : firstAdmitting u v = some .null) :
    Dispatches p u d v := by
  have reads := decode_null new first
  obtain ⟨here, admitted⟩ := firstAdmitting_admits first
  refine ⟨⟨fun h => ?_, fun nobody => ?_⟩, fun _ _ => reads, ?_, ?_, fun r _ => get_spec r⟩
  · rw [reads] at h
    cases h
  · exact absurd (nobody .null here) (by simp [admitted])
  · exact fun notNull => absurd (value_null_of_first first) notNull
  · intro e h
    rw [reads] at h
    cases h

theorem dispatches_member (new : Decoder.new p u = .ok d) (ordered : Shape.Ordered (membersOf u))
    (first : firstAdmitting u v = some m) (notNull : m ≠ .null) {field : String}
    (named : p.fieldName u m = .ok field) : Dispatches p u d v := by
  have stores := decode_some new first notNull named
  obtain ⟨here, admitted⟩ := firstAdmitting_admits first
  refine ⟨⟨fun h => ?_, fun nobody => ?_⟩, ?_, ?_, ?_, fun r _ => get_spec r⟩
  · rw [h] at stores
    cases stores.fails.1
  · exact absurd (nobody m here) (by simp [admitted])
  · rintro rfl -
    exact absurd (admits_null_only admitted) notNull
  · exact fun _ _ => ⟨m, here, admitted, fun n hn => find?_first ordered first hn, field, named,
      stores⟩
  · intro e h
    rw [h] at stores
    exact .inr stores.fails

/-- The decoders of a complete plan dispatch by the first token. -/
theorem dispatches (complete : Complete p) (hu : u ∈ p.unions)
    (ordered : Shape.Ordered (membersOf u)) (new : Decoder.new p u = .ok d) (v : Json) :
    Dispatches p u d v := by
  cases first : firstAdmitting u v with
  | none => exact dispatches_refused new first
  | some m =>
    by_cases null : m = .null
    · exact dispatches_null new (null ▸ first)
    · have inside : m ∈ Shape.nonNull (membersOf u) :=
        List.mem_filter.mpr ⟨(firstAdmitting_admits first).1, by simpa using null⟩
      obtain ⟨-, field, named⟩ := complete.fields u hu m inside
      exact dispatches_member new ordered first null named

/-- For every generated union of an accepted document there is a decoder under the name of the
union, which dispatches all values by their first token. -/
theorem decode_dispatches {document : Json} {g : Graph}
    (accepted : Document.readGraph document = .ok g) (forbidden : List String) (hu : u ∈ g.unions) :
    ∃ p d, Plan.ofGraph g forbidden = .ok p ∧ Decoder.new p u = .ok d ∧ p.unionName u = .ok d.name ∧
      ∀ v, Dispatches p u d v := by
  have wf := Document.readGraph_wellFormed accepted
  obtain ⟨p, planned, settled⟩ := ofGraph_ok wf forbidden
  have named := settled.unionName_eq hu
  refine ⟨p, _, planned, new_ok named, named, fun v => ?_⟩
  exact dispatches (settled.complete wf) (settled.unions ▸ hu) (members_ordered wf hu)
    (new_ok named) v

theorem sample_dispatches :
    Document.sampleUnion ∈ Document.sampleGraph.unions ∧
      ∃ p d, Plan.ofGraph Document.sampleGraph [] = .ok p ∧
        Decoder.new p Document.sampleUnion = .ok d ∧
        d.decode (.boolean true) = .error (.unconvertible d.name) ∧
        d.decode .null = .ok ⟨d.name, none, .null⟩ := by
  have generated : Document.sampleUnion ∈ Document.sampleGraph.unions := by decide
  obtain ⟨p, d, planned, new, -, all⟩ := decode_dispatches Document.readGraph_sample [] generated
  refine ⟨generated, p, d, planned, new, (all _).refused.mpr ?_, (all _).null rfl ?_⟩
  · decide
  · decide

end Shapewright.Dispatch
