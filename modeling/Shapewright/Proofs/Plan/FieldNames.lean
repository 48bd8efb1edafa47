import Shapewright.Proofs.Identifier.Word
import Shapewright.Proofs.Plan.FirstServed

/-!
# Names of fields

The fields of a union are served in the order of its members, none of them by the name of the union.
So a name that no collision leads to is the name of a field exactly when a member asks for it. Most
names can be asked for by classes only: the other shapes are called by fixed words, and arrays and
maps by names that end in one.
-/
namespace Shapewright

theorem Text.mended_append (a b : Text) : (a ++ b).mended = a.mended ++ b.mended := by
  change String.ofList ((a.points ++ b.points).map CodePoint.mended) = _
  rw [List.map_append, String.ofList_append, mended, mended]

@[simp] theorem Text.mended_ofString (s : String) : (Text.ofString s).mended = s := by
  simp [ofString, ofChars, mended, CodePoint.mended, Function.comp_def]

namespace Registry

/-- The name is none that a collision leads to. -/
def IsFirstChoice (name : String) : Prop := ¬ "Other".toList <+: name.toList

instance (name : String) : Decidable (IsFirstChoice name) := inferInstanceAs (Decidable (¬ _))

theorem firstFree_of_free {retry : String → String} {taken : List String} {wish : String}
    (free : wish ∉ taken) :
    firstFree retry taken wish = wish := by
  rw [firstFree, dif_neg free]

theorem FirstServed.eq_wish {wish name : String} {taken : String → Prop}
    (h : FirstServed wish taken name) (first : IsFirstChoice name) : name = wish := by
  obtain ⟨k, rfl, -, -⟩ := h
  cases k with
  | zero => simp [prefixed]
  | succ k =>
    refine absurd ⟨(prefixed k wish).toList, ?_⟩ first
    rw [← String.toList_append, prefixed, prefixed, List.replicate_succ, String.join_cons,
      String.append_assoc]

/-- A first choice that is not taken goes to whoever asks for it, and to nobody else. -/
theorem mem_serve {taken wishes : List String} {name : String} (first : IsFirstChoice name)
    (free : name ∉ taken) :
    name ∈ serve taken wishes ↔ name ∈ wishes := by
  induction wishes generalizing taken with
  | nil => rfl
  | cons wish wishes ih =>
    have served := firstFree_served taken wish
    rw [serve, List.mem_cons, List.mem_cons]
    by_cases here : name = firstFree otherwise taken wish
    · exact iff_of_true (.inl here) (.inl ((here ▸ served).eq_wish first))
    · have other : name ≠ wish := by
        rintro rfl
        exact here (firstFree_of_free free).symm
      rw [or_iff_right here, or_iff_right other]
      exact ih (List.not_mem_cons_of_ne_of_not_mem here free)

end Registry

namespace Plan
open Identifier Registry Result
open Shape (nonNull)

variable {p : Plan} {g : Graph} {forbidden : List String} {u m : Shape}

/-- The names of all fields are the ones that are served for their wishes. -/
theorem Settled.fields_served (settled : Settled p g forbidden) (wf : g.WellFormed)
    (hu : u ∈ g.unions) :
    (nonNull (membersOf u)).map (p.fieldName u) =
      (serve [typeName g forbidden (.union u)]
        ((nonNull (membersOf u)).map (fieldText g))).map .ok := by
  have once : ((fieldRequests g u).map (·.1)).Nodup := by
    rw [fieldRequests_keys]
    exact ((members_ordered wf hu).nodup.filter _).map fun _ _ => NameKey.field.inj
  have wishes : (fieldRequests g u).map (·.2) = (nonNull (membersOf u)).map (fieldText g) := by
    simp [fieldRequests, Function.comp_def]
  have served := served_of_scope (settled.fields u hu) once
  rwa [wishes, fieldRequests_keys, List.map_map] at served

/-- The words that shapes other than classes, arrays and maps are called by. -/
def fixedNames : List String := ["Anything", "Null", "Bool", "Integer", "Double", "String", "Union"]

/-- Only a class can ask for the name. -/
def IsForClasses (name : String) : Prop :=
  name ∉ fixedNames ∧ ¬ "rray".toList <:+ name.toList ∧ ¬ "ap".toList <:+ name.toList

instance (name : String) : Decidable (IsForClasses name) := inferInstanceAs (Decidable (_ ∧ _))

theorem styledText_fixed : ∀ name ∈ fixedNames, styledText name = name := by
  decide +kernel

/-- A shape that is called after another one, with a word behind it, asks for a name
that ends as the word does. -/
theorem fieldText_ends (wf : g.WellFormed) {inner : Shape} (hi : inner ∈ g.shapes)
    {word w cs : List Char} {c : Char}
    (display : displayName g m =
      do return (← displayName g inner) ++ Text.ofString (String.ofList (' ' :: word)))
    (single : Word.words word = [w]) (folded : Word.fold w = c :: cs) (keeps : cs.all isContinue) :
    cs <:+ (fieldText g m).toList := by
  obtain ⟨name, named⟩ := displayName_ok wf hi
  rw [named, ok_bind, pure_eq] at display
  rw [fieldText_of_displayName display, styledText, Text.mended_append, Text.mended_ofString]
  exact styled_ends single folded keeps _

theorem fieldText_array (wf : g.WellFormed) {items : Shape} (h : .array items ∈ g.shapes) :
    "rray".toList <:+ (fieldText g (.array items)).toList := by
  have single : Word.words "Array".toList = ["Array".toList] := by decide +kernel
  have folded : Word.fold "Array".toList = 'a' :: "rray".toList := by decide +kernel
  exact fieldText_ends wf (Graph.items_mem h) rfl single folded (by decide)

theorem fieldText_map (wf : g.WellFormed) {values : Shape} (h : .map values ∈ g.shapes) :
    "ap".toList <:+ (fieldText g (.map values)).toList := by
  have single : Word.words "Map".toList = ["Map".toList] := by decide +kernel
  have folded : Word.fold "Map".toList = 'm' :: "ap".toList := by decide +kernel
  exact fieldText_ends wf (Graph.values_mem h) rfl single folded (by decide)

theorem fieldText_record (wf : g.WellFormed) {c : RecordClass} (hc : c ∈ g.classes) :
    fieldText g (.record c.ref) = styledText c.baseName := by
  have display : displayName g (.record c.ref) = .ok c.baseName := by
    rw [displayName, baseName, wf.class?_ref hc]
  exact fieldText_of_displayName display

/-- A name for classes is asked for by the classes that are called so. -/
theorem fieldText_eq_iff (wf : g.WellFormed) (hm : m ∈ g.shapes) {name : String}
    (forClasses : IsForClasses name) :
    fieldText g m = name ↔ ∃ c ∈ g.classes, m = .record c.ref ∧ styledText c.baseName = name := by
  obtain ⟨notFixed, notArray, notMap⟩ := forClasses
  have other : fieldText g m ≠ name → (∀ ref, m ≠ .record ref) →
      (fieldText g m = name ↔ ∃ c ∈ g.classes, m = .record c.ref ∧ styledText c.baseName = name) :=
    fun apart noRecord => iff_of_false apart fun ⟨c, _, record, _⟩ => noRecord c.ref record
  have fixed : ∀ word ∈ fixedNames, fieldText g m = styledText word → fieldText g m ≠ name := by
    rintro word inside styled rfl
    rw [styled, styledText_fixed word inside] at notFixed
    exact notFixed inside
  cases m with
  | record ref =>
    obtain ⟨c, found⟩ := wf.exists_class hm
    obtain ⟨hc, rfl⟩ := Graph.mem_classes_of_class? found
    rw [fieldText_record wf hc]
    constructor
    · exact fun same => ⟨c, hc, rfl, same⟩
    · rintro ⟨d, hd, ref, same⟩
      rwa [List.inj_on_of_nodup_map wf.refs_nodup hc hd (Shape.record.inj ref)]
  | array items => exact other (fun same => notArray (same ▸ fieldText_array wf hm)) (by simp)
  | map values => exact other (fun same => notMap (same ▸ fieldText_map wf hm)) (by simp)
  | nothing => exact other (fixed "Anything" (by decide) rfl) (by simp)
  | null => exact other (fixed "Null" (by decide) rfl) (by simp)
  | boolean => exact other (fixed "Bool" (by decide) rfl) (by simp)
  | integer => exact other (fixed "Integer" (by decide) rfl) (by simp)
  | double => exact other (fixed "Double" (by decide) rfl) (by simp)
  | string => exact other (fixed "String" (by decide) rfl) (by simp)
  | union members => exact other (fixed "Union" (by decide) rfl) (by simp)

/-- Unless the union itself has such a name, one of its fields has it exactly when one of its
members is a class called so. -/
theorem Settled.exists_field_iff (settled : Settled p g forbidden) (wf : g.WellFormed)
    (hu : u ∈ g.unions) {name : String} (first : IsFirstChoice name)
    (forClasses : IsForClasses name) (free : p.unionName u ≠ .ok name) :
    (∃ m ∈ nonNull (membersOf u), p.fieldName u m = .ok name) ↔
      ∃ c ∈ g.classes, .record c.ref ∈ membersOf u ∧ styledText c.baseName = name := by
  have notTaken : name ∉ [typeName g forbidden (.union u)] := by
    rw [List.mem_singleton]
    rintro rfl
    exact free (settled.unionName_eq hu)
  have given : (∃ m ∈ nonNull (membersOf u), p.fieldName u m = .ok name) ↔
      ∃ m ∈ nonNull (membersOf u), fieldText g m = name := by
    rw [← List.mem_map, settled.fields_served wf hu,
      List.mem_map_of_injective fun _ _ => Except.ok.inj, mem_serve first notTaken, List.mem_map]
  rw [given]
  constructor
  · rintro ⟨m, hm, asked⟩
    obtain ⟨c, hc, rfl, same⟩ :=
      (fieldText_eq_iff wf ((nonNull_members wf hu).2 m hm) forClasses).mp asked
    exact ⟨c, hc, (List.mem_filter.mp hm).1, same⟩
  · rintro ⟨c, hc, inside, same⟩
    exact ⟨_, List.mem_filter.mpr ⟨inside, by simp⟩, (fieldText_record wf hc).trans same⟩

end Plan
end Shapewright
