import Mathlib.Data.List.Infix
import Shapewright.Files.World

/-!
# Saving a file

A file that is put where a way through the tree leads is found there, and every way that leads
elsewhere finds what it found before.
-/
namespace Shapewright.Files

namespace Tree

/-- Every place on the way to this one is a directory. -/
def Below (t : Tree) (place : List String) : Prop :=
  ∀ other, other <+: place → other ≠ place → t.at? other = .directory

variable {t : Tree} {place : List String} {node : Node}

theorem below_nil (t : Tree) : t.Below [] :=
  fun _ front apart => absurd (List.prefix_nil.mp front) apart

theorem Below.concat {step : String} (below : t.Below place) (here : t.at? place = .directory) :
    t.Below (place ++ [step]) := by
  intro other front apart
  rcases List.prefix_concat_iff.mp front with whole | front
  · exact absurd whole apart
  · by_cases same : other = place
    · rw [same, here]
    · exact below other front same

theorem Below.dropLast (below : t.Below place) : t.Below place.dropLast := by
  intro other front apart
  refine below other (front.trans (List.dropLast_prefix place)) ?_
  rintro rfl
  exact apart (front.eq_of_length_le (by rw [List.length_dropLast]; exact Nat.sub_le _ _))

section Walk
variable {start steps : List String} {step : String}

theorem walk_out (here : t.at? start = .directory) (top : start.isEmpty) :
    t.walk start (".." :: steps) = (none, outside steps) := by
  rw [walk, here]
  simp only [if_true, top]

theorem walk_up (here : t.at? start = .directory) (inside : ¬ start.isEmpty) :
    t.walk start (".." :: steps) = t.walk start.dropLast steps := by
  rw [walk, here]
  simp only [if_true, inside, if_false, Bool.false_eq_true]

theorem walk_overlong (here : t.at? start = .directory) (notUp : step ≠ "..")
    (long : maxNameSize < step.utf8ByteSize) :
    t.walk start (step :: steps) = (some start, .overlong) := by
  rw [walk, here]
  simp only [notUp, if_false, long, if_true]

theorem walk_down (here : t.at? start = .directory) (notUp : step ≠ "..")
    (short : ¬ maxNameSize < step.utf8ByteSize) :
    t.walk start (step :: steps) = t.walk (start ++ [step]) steps := by
  rw [walk, here]
  simp only [notUp, if_false, short]

end Walk

theorem walk_below {start : List String} (below : t.Below start) (steps : List String)
    (leads : (t.walk start steps).1 = some place) : t.Below place := by
  fun_induction walk t start steps with
  | case1 start => exact Option.some.inj leads ▸ below
  | case2 start steps here top => cases leads
  | case3 start steps here inside ih => exact ih below.dropLast leads
  | case4 start step steps here => exact Option.some.inj leads ▸ below
  | case5 start step steps here notUp short ih => exact ih (below.concat here) leads
  | case6 start step steps here => exact Option.some.inj leads ▸ below
  | case7 start step steps => exact Option.some.inj leads ▸ below

theorem at?_put_self (t : Tree) (place : List String) (node : Node) :
    (t.put place node).at? place = node := by
  simp only [at?, put, List.lookup_cons_self]

/-- The directories above a place are there already. -/
theorem at?_put_of_ne (below : t.Below place) {other : List String} (apart : other ≠ place)
    (node : Node) :
    (t.put place node).at? other = t.at? other := by
  have different : (other == place) = false := beq_eq_false_iff_ne.mpr apart
  have lookup : (t.put place node).lookup other = t.lookup other := by
    simp only [put, List.lookup_cons, different]
  simp only [at?, lookup]
  cases found : t.lookup other with
  | some there => rfl
  | none =>
    by_cases front : other <+: place
    · have directory := below other front apart
      simp only [at?, found] at directory ⊢
      split at directory
      · next known =>
        have still : (other.isEmpty || (t.put place node).any fun e => other.isPrefixOf e.1) =
            true := by
          simp only [put, List.any_cons]
          rw [Bool.or_left_comm, known, Bool.or_true]
        rw [if_pos still, if_pos known]
      · cases directory
    · have notFront : other.isPrefixOf place = false := by
        rw [← Bool.not_eq_true, List.isPrefixOf_iff_prefix]
        exact front
      simp only [put, List.any_cons, notFront, Bool.false_or]

/-- A way that does not end in the place passes it by, since there is no directory in it. -/
theorem walk_put_of_ne (below : t.Below place) (leaf : t.at? place ≠ .directory) (node : Node)
    (start steps : List String) (apart : (t.walk start steps).1 ≠ some place) :
    (t.put place node).walk start steps = t.walk start steps := by
  have same {other : List String} (h : other ≠ place) :
      (t.put place node).at? other = t.at? other :=
    at?_put_of_ne below h node
  fun_induction walk t start steps with
  | case1 start =>
    have other : start ≠ place := fun h => apart (congrArg some h)
    rw [walk, same other]
  | case2 start steps here top =>
    have other : start ≠ place := fun h => leaf (h ▸ here)
    rw [walk_out ((same other).trans here) top]
  | case3 start steps here inside ih =>
    have other : start ≠ place := fun h => leaf (h ▸ here)
    rw [walk_up ((same other).trans here) inside, ih apart]
  | case4 start step steps here notUp long =>
    have other : start ≠ place := fun h => apart (congrArg some h)
    rw [walk_overlong ((same other).trans here) notUp long]
  | case5 start step steps here notUp short ih =>
    have other : start ≠ place := fun h => leaf (h ▸ here)
    rw [walk_down ((same other).trans here) notUp short, ih apart]
  | case6 start step steps here =>
    have other : start ≠ place := fun h => apart (congrArg some h)
    rw [walk, same other, here]
  | case7 start step steps notDirectory notMissing =>
    have other : start ≠ place := fun h => apart (congrArg some h)
    rw [walk, same other]
    split
    · next here => exact absurd here notDirectory
    · next here => exact absurd here notMissing
    · rfl

/-- A way through a directory goes on from there. -/
theorem walk_append {start mid front : List String}
    (through : t.walk start front = (some mid, .directory)) (rest : List String) :
    t.walk start (front ++ rest) = t.walk mid rest := by
  fun_induction walk t start front with
  | case1 start =>
    rw [List.nil_append, Option.some.inj (Prod.mk.inj through).1]
  | case2 start steps here top => cases through
  | case3 start steps here inside ih =>
    rw [List.cons_append, walk_up here inside, ih through]
  | case4 start step steps here notUp long => cases through
  | case5 start step steps here notUp short ih =>
    rw [List.cons_append, walk_down here notUp short, ih through]
  | case6 start step steps here => cases through
  | case7 start step steps => cases through

/-- A way that leads to a directory or a file takes all its steps. -/
theorem at?_of_walk {start steps : List String} (leads : t.walk start steps = (some place, node))
    (there : node ≠ .missing ∧ node ≠ .blocked ∧ node ≠ .overlong) : t.at? place = node := by
  fun_induction walk t start steps with
  | case1 start =>
    obtain ⟨same, found⟩ := Prod.mk.inj leads
    rw [← Option.some.inj same, found]
  | case2 start steps here top => cases leads
  | case3 start steps here inside ih => exact ih leads
  | case4 start step steps here notUp long => exact absurd (Prod.mk.inj leads).2.symm there.2.2
  | case5 start step steps here notUp short ih => exact ih leads
  | case6 start step steps here => exact absurd (Prod.mk.inj leads).2.symm there.1
  | case7 start step steps => exact absurd (Prod.mk.inj leads).2.symm there.2.1

theorem walk_put_file {start steps : List String} (below : t.Below place) {bytes : List UInt8}
    (leads : t.walk start steps = (some place, .file bytes)) (node : Node) :
    (t.put place node).walk start steps = (some place, node) := by
  have there : t.at? place = .file bytes := at?_of_walk leads (by simp)
  have same {other : List String} (here : t.at? other = .directory) :
      (t.put place node).at? other = .directory := by
    have apart : other ≠ place := by
      rintro rfl
      rw [there] at here
      cases here
    rw [at?_put_of_ne below apart, here]
  fun_induction walk t start steps with
  | case1 start =>
    obtain rfl := Option.some.inj (Prod.mk.inj leads).1
    rw [walk, at?_put_self]
  | case2 start steps here top => cases leads
  | case3 start steps here inside ih =>
    rw [walk_up (same here) inside, ih leads]
  | case4 start step steps here notUp long => cases leads
  | case5 start step steps here notUp short ih =>
    rw [walk_down (same here) notUp short, ih leads]
  | case6 start step steps here => cases leads
  | case7 start step steps => cases leads

/-- A step from a directory to where nothing is leads there, for above a directory
there are only directories. -/
theorem place_of_missing {mid : List String} {last : String} (below : t.Below mid)
    (here : t.at? mid = .directory) (leads : t.walk mid [last] = (some place, .missing)) :
    place = mid ++ [last] ∧ t.at? place = .missing ∧ last ≠ ".." ∧
      ¬ maxNameSize < last.utf8ByteSize := by
  by_cases up : last = ".."
  · rw [up] at leads
    by_cases top : mid.isEmpty
    · rw [walk_out here top] at leads
      cases leads
    · rw [walk_up here top, walk] at leads
      have apart : mid.dropLast ≠ mid := fun same => by
        have shorter := congrArg List.length same
        have filled : mid.length ≠ 0 := by simpa using top
        rw [List.length_dropLast] at shorter
        omega
      rw [below _ (List.dropLast_prefix mid) apart] at leads
      cases leads
  · by_cases long : maxNameSize < last.utf8ByteSize
    · rw [walk_overlong here up long] at leads
      cases leads
    · rw [walk_down here up long, walk] at leads
      obtain ⟨same, empty⟩ := Prod.mk.inj leads
      rw [Option.some.inj same] at empty
      exact ⟨(Option.some.inj same).symm, empty, up, long⟩

/-- A new file is found where nothing was, if the way to it leads through directories. -/
theorem walk_put_missing {steps mid : List String} {last : String}
    (through : t.walk [] steps = (some mid, .directory))
    (leads : t.walk [] (steps ++ [last]) = (some place, .missing)) :
    t.at? place = .missing ∧ ∀ node, (t.put place node).walk [] (steps ++ [last]) =
      (some place, node) := by
  have here : t.at? mid = .directory := at?_of_walk through (by simp)
  have below : t.Below mid := walk_below (below_nil t) steps (by rw [through])
  rw [walk_append through] at leads
  obtain ⟨rfl, empty, notUp, short⟩ := place_of_missing below here leads
  refine ⟨empty, fun node => ?_⟩
  have apart : mid ≠ mid ++ [last] := by simp
  have leaf : t.at? (mid ++ [last]) ≠ .directory := by rw [empty]; exact Node.noConfusion
  have still : (t.put (mid ++ [last]) node).walk [] steps = (some mid, .directory) := by
    rw [walk_put_of_ne (below.concat here) leaf node [] steps (by rw [through]; simp), through]
  rw [walk_append still,
    walk_down ((at?_put_of_ne (below.concat here) apart node).trans here) notUp short, walk,
    at?_put_self]

/-- A way that has left the tree does not come back. -/
theorem walk_outside {start front : List String} (left : (t.walk start front).1 = none)
    (rest : List String) :
    (t.walk start (front ++ rest)).1 = none := by
  fun_induction walk t start front with
  | case1 start => cases left
  | case2 start steps here top =>
    rw [List.cons_append, walk_out here top]
  | case3 start steps here inside ih =>
    rw [List.cons_append, walk_up here inside, ih left]
  | case4 start step steps here notUp long => cases left
  | case5 start step steps here notUp short ih =>
    rw [List.cons_append, walk_down here notUp short, ih left]
  | case6 start step steps here => cases left
  | case7 start step steps => cases left

end Tree

/-- A path that something can have. -/
def Path.IsUsable (p : Path) : Prop := p.isNameable ∧ ¬ maxPathSize < p.text.utf8ByteSize

namespace World

variable {w : World} {path other : Path} {place : Bool × List String}

theorem view_of_usable (usable : path.IsUsable) (w : World) :
    w.view path = ((w.tree path).walk [] path.steps).2 := by
  simp only [view, usable.1, usable.2, Bool.not_true, Bool.false_eq_true, if_false]

theorem usable_of_view (named : w.view path ≠ .unnameable) (short : w.view path ≠ .overlong) :
    path.IsUsable := by
  constructor
  · by_contra unnamed
    exact named (by simp [view, unnamed])
  · intro long
    by_cases unnamed : path.isNameable
    · exact short (by simp [view, unnamed, long])
    · exact named (by simp [view, unnamed])

theorem tree_put_of_eq (h : place.1 = path.isAbsolute) (node : Node) :
    (w.put place node).tree path = (w.tree path).put place.2 node := by
  unfold put tree
  rw [h]
  cases path.isAbsolute <;> rfl

theorem tree_put_of_ne (h : place.1 ≠ path.isAbsolute) (node : Node) :
    (w.put place node).tree path = w.tree path := by
  unfold put tree
  cases absolute : path.isAbsolute <;> simp_all

theorem walk_of_place? (leads : w.place? path = some place) :
    place.1 = path.isAbsolute ∧ ((w.tree path).walk [] path.steps).1 = some place.2 := by
  obtain ⟨steps, walked, rfl⟩ := Option.map_eq_some_iff.mp leads
  exact ⟨rfl, walked⟩

/-- What is put where a path leads is seen at no path that leads elsewhere. -/
theorem view_put_of_ne (leads : w.place? path = some place)
    (leaf : (w.tree path).at? place.2 ≠ .directory) (node : Node)
    (apart : w.place? other ≠ some place) : (w.put place node).view other = w.view other := by
  obtain ⟨side, walked⟩ := walk_of_place? leads
  have same : ((w.put place node).tree other).walk [] other.steps =
      (w.tree other).walk [] other.steps := by
    by_cases sameTree : place.1 = other.isAbsolute
    · have trees : w.tree other = w.tree path := by rw [tree, tree, ← sameTree, side]
      have below : (w.tree path).Below place.2 := Tree.walk_below (Tree.below_nil _) _ walked
      rw [tree_put_of_eq sameTree, trees]
      refine Tree.walk_put_of_ne below leaf node [] other.steps fun meets => apart ?_
      rw [place?, trees, meets, Option.map_some, ← sameTree]
    · rw [tree_put_of_ne sameTree]
  rw [view, view, same]

/-- A path that leads to a place where no directory is, and still does so when something is put
there. -/
structure Takes (w : World) (path : Path) (place : Bool × List String) : Prop where
  usable : path.IsUsable
  leads : w.place? path = some place
  leaf : (w.tree path).at? place.2 ≠ .directory
  still : ∀ node, ((w.tree path).put place.2 node).walk [] path.steps = (some place.2, node)

theorem takes_of_file {bytes : List UInt8} (leads : w.place? path = some place)
    (there : w.view path = .file bytes) :
    w.Takes path place := by
  have usable := usable_of_view (by rw [there]; exact nofun) (by rw [there]; exact nofun)
  obtain ⟨-, reached⟩ := walk_of_place? leads
  rw [view_of_usable usable] at there
  have walked : (w.tree path).walk [] path.steps = (some place.2, .file bytes) :=
    Prod.ext reached there
  have below : (w.tree path).Below place.2 := Tree.walk_below (Tree.below_nil _) _ reached
  refine ⟨usable, leads, ?_, Tree.walk_put_file below walked⟩
  rw [Tree.at?_of_walk walked (by simp)]
  exact Node.noConfusion

theorem takes_of_missing (leads : w.place? path = some place) (there : w.view path = .missing)
    (above : w.view path.parent = .directory) : w.Takes path place := by
  have usable := usable_of_view (by rw [there]; exact nofun) (by rw [there]; exact nofun)
  have parentUsable : path.parent.IsUsable :=
    usable_of_view (by rw [above]; exact nofun) (by rw [above]; exact nofun)
  obtain ⟨-, reached⟩ := walk_of_place? leads
  rw [view_of_usable usable] at there
  rw [view_of_usable parentUsable] at above
  have steps : path.steps.dropLast ++ [path.name] = path.steps := by
    rcases List.eq_nil_or_concat path.steps with none | ⟨front, last, some⟩
    · have same : path.parent.steps = path.steps := by rw [Path.parent, none]; rfl
      rw [same] at above
      cases there.symm.trans above
    · rw [Path.name, some, List.concat_eq_append, List.dropLast_concat, List.getLast?_concat,
        Option.getD_some]
  have walked : (w.tree path).walk [] (path.steps.dropLast ++ [path.name]) =
      (some place.2, .missing) := by
    rw [steps]
    exact Prod.ext reached there
  cases front : ((w.tree path).walk [] path.steps.dropLast).1 with
  | none =>
    have left := Tree.walk_outside front [path.name]
    rw [walked] at left
    cases left
  | some mid =>
    obtain ⟨empty, still⟩ := Tree.walk_put_missing (Prod.ext front above) walked
    rw [steps] at still
    refine ⟨usable, leads, ?_, still⟩
    rw [empty]
    exact Node.noConfusion

variable {bytes : List UInt8}

theorem save_eq_put (leads : w.place? path = some place) (notSink : w.view path ≠ .sink)
    (bytes : List UInt8) :
    w.save path bytes = w.put place (.file bytes) := by
  simp only [save, leads, notSink, if_false]

theorem Takes.save_eq (takes : w.Takes path place) (notSink : w.view path ≠ .sink) :
    (w.save path bytes).view path = .file bytes := by
  rw [save_eq_put takes.leads notSink, view_of_usable takes.usable,
    tree_put_of_eq (walk_of_place? takes.leads).1, takes.still]

/-- A file that is saved changes nothing elsewhere. -/
theorem Takes.save_of_ne (takes : w.Takes path place) (apart : w.place? other ≠ w.place? path) :
    (w.save path bytes).view other = w.view other := by
  by_cases sink : w.view path = .sink
  · simp only [save, takes.leads, sink, if_true]
  · rw [takes.leads] at apart
    rw [save_eq_put takes.leads sink, view_put_of_ne takes.leads takes.leaf _ apart]

end World
end Shapewright.Files
