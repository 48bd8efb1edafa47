import Shapewright.Dispatch.Table
import Shapewright.Proofs.Ordered
import Shapewright.Proofs.Shape.Walk

/-!
# Keys of shapes

A key spells one shape alone as long as no reference holds a sign that separates or closes in keys.
Then members sorted by their keys have one order, whatever the order in which they came. Where a
reference holds such a sign, two shapes can share a key, and the order of such members is left to
chance.
-/
namespace Shapewright

namespace Text

@[simp] theorem points_append (a b : Text) : (a ++ b).points = a.points ++ b.points := rfl

end Text

namespace Shape

/-- A comma separates the members of a union in its key, and an angle bracket closes a key. -/
def IsSeparator (p : CodePoint) : Prop := p = .char ',' ∨ p = .char '>'

/-- No reference inside holds a separator. -/
def PlainRefs (s : Shape) : Prop := ∀ ref, .record ref ∈ s.walk → ∀ p ∈ ref.points, ¬ IsSeparator p

/-- What stands behind a key that is part of another one, or nothing. -/
def Closes (rest : List CodePoint) : Prop := ∀ p ∈ rest.head?, IsSeparator p

/-- What every key of the same kind of shape begins with. -/
def mark : Shape → List CodePoint
  | .nothing => [.char 'N', .char 'o']
  | .null => [.char 'N', .char 'u']
  | .boolean => [.char 'B', .char 'o']
  | .integer => [.char 'I', .char 'n']
  | .double => [.char 'D', .char 'o']
  | .string => [.char 'S', .char 't']
  | .array _ => [.char 'a', .char 'r']
  | .map _ => [.char 'm', .char 'a']
  | .record _ => [.char 'c', .char 'l']
  | .union _ => [.char 'u', .char 'n']

theorem take_key (s : Shape) (rest : List CodePoint) : (s.key.points ++ rest).take 2 = s.mark := by
  cases s <;> rfl

theorem points_array (items : Shape) :
    (array items).key.points = ("array<" : Text).points ++ (items.key.points ++ [.char '>']) := rfl

theorem points_map (values : Shape) :
    (map values).key.points = ("map<" : Text).points ++ (values.key.points ++ [.char '>']) := rfl

theorem points_record (ref : Text) :
    (record ref).key.points = ("class:" : Text).points ++ ref.points := rfl

theorem points_union (members : List Shape) : (union members).key.points =
    ("union<" : Text).points ++ ((Text.join "," (keys members)).points ++ [.char '>']) := rfl

theorem mark_eq_of_key {a b : Shape} {x y : List CodePoint}
    (h : a.key.points ++ x = b.key.points ++ y) :
    a.mark = b.mark := by
  rw [← take_key a x, h, take_key]

section PlainRefs
variable {s m : Shape} {members : List Shape} {ref : Text}

theorem PlainRefs.of_mem_walk (h : s.PlainRefs) (inside : m ∈ s.walk) : m.PlainRefs :=
  fun ref deeper => h ref (mem_walk_trans inside deeper)

theorem PlainRefs.items (h : (array s).PlainRefs) : s.PlainRefs :=
  h.of_mem_walk (mem_walk_array.mpr (.inr (mem_walk_self s)))

theorem PlainRefs.values (h : (map s).PlainRefs) : s.PlainRefs :=
  h.of_mem_walk (mem_walk_map.mpr (.inr (mem_walk_self s)))

theorem PlainRefs.own (h : (record ref).PlainRefs) : ∀ p ∈ ref.points, ¬ IsSeparator p :=
  h ref (mem_walk_self _)

theorem PlainRefs.member (h : (union members).PlainRefs) (hm : m ∈ members) : m.PlainRefs :=
  h.of_mem_walk (mem_walk_union.mpr (.inr ⟨m, hm, mem_walk_self m⟩))

end PlainRefs

/-- A run of other signs ends where a separator or nothing follows. -/
theorem run_append_inj {r t x y : List CodePoint} (hr : ∀ p ∈ r, ¬ IsSeparator p)
    (ht : ∀ p ∈ t, ¬ IsSeparator p) (hx : Closes x) (hy : Closes y) (h : r ++ x = t ++ y) :
    r = t ∧ x = y := by
  induction r generalizing t with
  | nil =>
    cases t with
    | nil => exact ⟨rfl, h⟩
    | cons q t =>
      subst h
      exact absurd (hx q rfl) (ht q List.mem_cons_self)
  | cons p r ih =>
    cases t with
    | nil =>
      rw [List.nil_append] at h
      subst h
      exact absurd (hy p rfl) (hr p List.mem_cons_self)
    | cons q t =>
      obtain ⟨rfl, rest⟩ := List.cons.inj h
      obtain ⟨rfl, same⟩ := ih (List.forall_mem_cons.mp hr).2 (List.forall_mem_cons.mp ht).2 rest
      exact ⟨rfl, same⟩

/-- The keys of the members behind the first one, each behind a comma. -/
def listed (ms : List Shape) : List CodePoint := ms.flatMap fun m => .char ',' :: m.key.points

theorem join_keys (m : Shape) (ms : List Shape) :
    (Text.join "," (keys (m :: ms))).points = m.key.points ++ listed ms := by
  induction ms generalizing m with
  | nil => simp [keys, Text.join, listed]
  | cons n ms ih =>
    have rest := ih n
    simp only [keys] at rest
    simp only [keys, Text.join, Text.points_append, rest, listed, List.flatMap_cons,
      List.append_assoc]
    rfl

theorem closes_listed (ms : List Shape) (x : List CodePoint) :
    Closes (listed ms ++ .char '>' :: x) := by
  intro p hp
  cases ms with
  | nil => exact .inr (by simpa [listed] using hp.symm)
  | cons m ms => exact .inl (by simpa [listed] using hp.symm)

/-- Members whose keys can each be told from what follows are told from what follows together. -/
theorem listed_append_inj {ms ns : List Shape} {x y : List CodePoint}
    (each : ∀ m ∈ ms, ∀ n ∈ ns, ∀ x y, Closes x → Closes y →
      m.key.points ++ x = n.key.points ++ y → m = n ∧ x = y)
    (h : listed ms ++ .char '>' :: x = listed ns ++ .char '>' :: y) : ms = ns ∧ x = y := by
  induction ms generalizing ns with
  | nil =>
    cases ns with
    | nil => exact ⟨rfl, (List.cons.inj h).2⟩
    | cons n ns => simp [listed] at h
  | cons m ms ih =>
    cases ns with
    | nil => simp [listed] at h
    | cons n ns =>
      have keys : m.key.points ++ (listed ms ++ .char '>' :: x) =
          n.key.points ++ (listed ns ++ .char '>' :: y) := by
        simpa [listed] using h
      obtain ⟨rfl, rest⟩ := each m List.mem_cons_self n List.mem_cons_self _ _ (closes_listed ms x)
        (closes_listed ns y) keys
      obtain ⟨rfl, same⟩ :=
        ih (fun a ha b hb => each a (List.mem_cons_of_mem m ha) b (List.mem_cons_of_mem m hb)) rest
      exact ⟨rfl, same⟩

/-- No key begins with the sign that closes an empty union. -/
theorem join_keys_ne_close (m : Shape) (ms : List Shape) (x y : List CodePoint) :
    (Text.join "," (keys (m :: ms))).points ++ x ≠ .char '>' :: y := by
  intro same
  rw [join_keys, List.append_assoc] at same
  have front := congrArg (List.take 1) ((take_key m _).symm.trans (congrArg (List.take 2) same))
  cases m <;> simp [mark] at front

/-- The keys of the members of a union, up to the sign that closes them. -/
theorem members_append_inj {ms ns : List Shape} {x y : List CodePoint}
    (each : ∀ m ∈ ms, ∀ n ∈ ns, ∀ x y, Closes x → Closes y →
      m.key.points ++ x = n.key.points ++ y → m = n ∧ x = y)
    (h : (Text.join "," (keys ms)).points ++ .char '>' :: x =
      (Text.join "," (keys ns)).points ++ .char '>' :: y) :
    ms = ns ∧ x = y := by
  cases ms with
  | nil =>
    cases ns with
    | nil => exact ⟨rfl, (List.cons.inj h).2⟩
    | cons n ns => exact absurd h.symm (join_keys_ne_close n ns _ x)
  | cons m ms =>
    cases ns with
    | nil => exact absurd h (join_keys_ne_close m ms _ y)
    | cons n ns =>
      refine listed_append_inj each ?_
      rw [join_keys, join_keys] at h
      simpa [listed] using h

/-- What stands behind a key cannot be taken for a part of it. -/
theorem key_append_inj {a b : Shape} {x y : List CodePoint} (ha : a.PlainRefs) (hb : b.PlainRefs)
    (hx : Closes x) (hy : Closes y) (h : a.key.points ++ x = b.key.points ++ y) :
    a = b ∧ x = y := by
  have marks := mark_eq_of_key h
  have closed (z : List CodePoint) : Closes (.char '>' :: z) :=
    fun p hp => .inr (by simpa using hp.symm)
  induction a generalizing b x y with
  | array items ih =>
    obtain ⟨others, rfl⟩ : ∃ others, b = array others := by cases b <;> simp [mark] at marks ⊢
    have inner : items.key.points ++ .char '>' :: x = others.key.points ++ .char '>' :: y := by
      simpa [points_array] using h
    obtain ⟨rfl, rest⟩ := ih ha.items hb.items (closed x) (closed y) inner (mark_eq_of_key inner)
    exact ⟨rfl, (List.cons.inj rest).2⟩
  | map values ih =>
    obtain ⟨others, rfl⟩ : ∃ others, b = map others := by cases b <;> simp [mark] at marks ⊢
    have inner : values.key.points ++ .char '>' :: x = others.key.points ++ .char '>' :: y := by
      simpa [points_map] using h
    obtain ⟨rfl, rest⟩ := ih ha.values hb.values (closed x) (closed y) inner (mark_eq_of_key inner)
    exact ⟨rfl, (List.cons.inj rest).2⟩
  | record ref =>
    obtain ⟨other, rfl⟩ : ∃ other, b = record other := by cases b <;> simp [mark] at marks ⊢
    have refs : ref.points ++ x = other.points ++ y := by simpa [points_record] using h
    obtain ⟨same, rest⟩ := run_append_inj ha.own hb.own hx hy refs
    exact ⟨congrArg (record ⟨·⟩) same, rest⟩
  | union members ih =>
    obtain ⟨others, rfl⟩ : ∃ others, b = union others := by cases b <;> simp [mark] at marks ⊢
    have inner : (Text.join "," (keys members)).points ++ .char '>' :: x =
        (Text.join "," (keys others)).points ++ .char '>' :: y := by simpa [points_union] using h
    obtain ⟨rfl, rest⟩ := members_append_inj (fun m hm n hn x y hx hy same =>
      ih m hm (ha.member hm) (hb.member hn) hx hy same (mark_eq_of_key same)) inner
    exact ⟨rfl, rest⟩
  | _ =>
    cases b <;> simp [mark] at marks
    exact ⟨rfl, List.append_cancel_left h⟩

theorem key_inj {a b : Shape} (ha : a.PlainRefs) (hb : b.PlainRefs) (h : a.key = b.key) :
    a = b := by
  have nothing : Closes [] := fun p hp => absurd hp (by simp)
  exact (key_append_inj ha hb nothing nothing (by rw [h])).1

theorem key_le_total (a b : Shape) : a.key.le b.key ∨ b.key.le a.key := Text.le_total a.key b.key

theorem key_le_trans {a b c : Shape} (h : a.key.le b.key) (k : b.key.le c.key) : a.key.le c.key :=
  Text.le_trans h k

/-- Members sorted by their keys alone. Those that share a key stay in the order in which they
came. -/
def sortByKey (members : List Shape) : List Shape :=
  Ordered.sort (fun a b => a.key.le b.key) members

theorem sortByKey_of_ordered {members : List Shape} (h : Ordered members) :
    sortByKey members = members := by
  refine Ordered.sort_eq_self (h.imp fun before => ?_)
  rw [Text.le_iff]
  rcases precedes_iff.mp before with less | ⟨same, -⟩
  · exact Text.lt_asymm less
  · exact same ▸ Text.lt_irrefl _

/-- The order in which members with different keys came is lost. -/
theorem sortByKey_congr {as bs : List Shape} (perm : as.Perm bs)
    (apart : ∀ a ∈ as, ∀ b ∈ as, a.key = b.key → a = b) : sortByKey as = sortByKey bs := by
  refine Ordered.sort_eq_of_perm key_le_total key_le_trans perm fun a ha b hb le ge => ?_
  exact apart a ha b hb (Text.eq_of_not_lt (Text.le_iff.mp ge) (Text.le_iff.mp le))

theorem sortByKey_eq_collect {members : List Shape} (once : members.Nodup)
    (apart : ∀ a ∈ members, ∀ b ∈ members, a.key = b.key → a = b) :
    sortByKey members = collect members := by
  have ordered := collect_ordered members
  have perm : members.Perm (collect members) :=
    (List.perm_ext_iff_of_nodup once ordered.nodup).mpr fun m => mem_collect.symm
  rw [sortByKey_congr perm apart, sortByKey_of_ordered ordered]

/-- Among shapes whose references hold no separator a key stands for one shape. Members of such
shapes have one order by their keys, whatever the order in which they come. -/
theorem keys_tell_apart {members : List Shape} (plain : ∀ m ∈ members, m.PlainRefs) :
    (∀ a ∈ members, ∀ b ∈ members, a.key = b.key ↔ a = b) ∧
      (members.Nodup → ∀ others : List Shape,
        others.Perm members → sortByKey others = collect members) := by
  have apart : ∀ a ∈ members, ∀ b ∈ members, a.key = b.key → a = b := fun a ha b hb same =>
    key_inj (plain a ha) (plain b hb) same
  refine ⟨fun a ha b hb => ⟨apart a ha b hb, congrArg key⟩, fun once others perm => ?_⟩
  rw [← sortByKey_congr perm.symm apart, sortByKey_eq_collect once apart]

def sampleMembers : List Shape :=
  [.record "b", .array (.union [.null, .record "a<"]), .string, .record "a"]

theorem sample_keys_tell_apart :
    (∀ m ∈ sampleMembers, m.PlainRefs) ∧ sampleMembers.Nodup ∧
      sortByKey sampleMembers.reverse =
        [.string, .array (.union [.null, .record "a<"]), .record "a", .record "b"] := by
  have plain : ∀ m ∈ sampleMembers, m.PlainRefs := by
    simp [sampleMembers, PlainRefs, walk, walkAll, IsSeparator, Text.ofString, Text.ofChars]
  have once : sampleMembers.Nodup := by decide
  refine ⟨plain, once, ?_⟩
  rw [(keys_tell_apart plain).2 once _ (List.reverse_perm _)]
  decide

/-- Three classes, and two of which the first is called like two of the three. -/
def threeClasses : Shape := .union [.record "a", .record "b", .record "c"]

def twoClasses : Shape := .union [.record "a,class:b", .record "c"]

/-- Two unions in which the inner union closes at different places. -/
def closedEarly : Shape :=
  .union [.array (.union [.record "a", .record "b"]), .record "c>>", .record "d"]

def closedLate : Shape :=
  .union [.array (.union [.record "a", .record "b>>", .record "c"]), .record "d"]

/-- With a comma or an angle bracket in a reference two unions can share a key. Then
the order of their arrays, and with it the array that a value goes to, hangs on the
order in which the members come. -/
theorem separators_share_keys :
    (threeClasses.Canonical ∧ twoClasses.Canonical ∧ threeClasses ≠ twoClasses ∧
      threeClasses.key = twoClasses.key) ∧
      (closedEarly.Canonical ∧ closedLate.Canonical ∧ closedEarly ≠ closedLate ∧
        closedEarly.key = closedLate.key) ∧
      sortByKey [.array threeClasses, .array twoClasses] ≠
        sortByKey [.array twoClasses, .array threeClasses] ∧
      Dispatch.table (sortByKey [.array threeClasses, .array twoClasses]) ≠
        Dispatch.table (sortByKey [.array twoClasses, .array threeClasses]) := by
  refine ⟨⟨?_, ?_, by decide, by decide⟩, ⟨?_, ?_, by decide, by decide⟩, by decide, by decide⟩ <;>
    simp [threeClasses, twoClasses, closedEarly, closedLate, Canonical, AllCanonical,
      isUnion] <;> decide

end Shape
end Shapewright
