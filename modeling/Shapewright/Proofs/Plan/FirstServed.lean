import Shapewright.Proofs.Document.Exact
import Shapewright.Proofs.Document.Keys
import Shapewright.Proofs.Plan.Names

/-!
# First come, first served

A scope serves its wishes in order: each gets the first name of its chain that is neither forbidden
nor given to an earlier one. `serve` is the list of names that come out. It sees no keys, so the
name of a class depends on the wishes up to its own only, and whatever is declared later leaves it
alone.
-/
namespace Shapewright.Registry

/-- The wish after so many collisions. -/
def prefixed (k : Nat) (wish : String) : String := String.join (List.replicate k "Other") ++ wish

/-- The name is the wish with the fewest prefixes that is not taken. -/
def FirstServed (wish : String) (taken : String → Prop) (name : String) : Prop :=
  ∃ k, name = prefixed k wish ∧ ¬ taken name ∧ ∀ j < k, taken (prefixed j wish)

/-- The names that wishes get one after another. -/
def serve (taken : List String) : List String → List String
  | [] => []
  | wish :: wishes =>
    firstFree otherwise taken wish :: serve (firstFree otherwise taken wish :: taken) wishes

theorem iterate_otherwise (k : Nat) (wish : String) : otherwise^[k] wish = prefixed k wish := by
  induction k with
  | zero => simp [prefixed]
  | succ k ih =>
    rw [Function.iterate_succ_apply', ih, otherwise, prefixed, prefixed, List.replicate_succ,
      String.join_cons, String.append_assoc]

theorem firstFree_served (taken : List String) (wish : String) :
    FirstServed wish (· ∈ taken) (firstFree otherwise taken wish) := by
  obtain ⟨k, result, free, before⟩ := firstFree_chain (otherwise_lengthening.settles taken wish)
  refine ⟨k, result.trans (iterate_otherwise k wish), result ▸ free, fun j hj => ?_⟩
  rw [← iterate_otherwise]
  exact before j hj

theorem FirstServed.congr {wish name : String} {taken other : String → Prop}
    (h : FirstServed wish taken name) (same : ∀ n, taken n ↔ other n) :
    FirstServed wish other name := by
  obtain ⟨k, result, free, before⟩ := h
  exact ⟨k, result, mt (same name).mpr free, fun j hj => (same _).mp (before j hj)⟩

/-- There is one such name. -/
theorem FirstServed.unique {wish name again : String} {taken : String → Prop}
    (h : FirstServed wish taken name) (h' : FirstServed wish taken again) : name = again := by
  obtain ⟨k, rfl, free, before⟩ := h
  obtain ⟨l, rfl, freeToo, beforeToo⟩ := h'
  rcases Nat.lt_trichotomy k l with less | rfl | more
  · exact absurd (beforeToo k less) free
  · rfl
  · exact absurd (before l more) freeToo

theorem serve_append (taken wishes more : List String) :
    serve taken (wishes ++ more) =
      serve taken wishes ++ serve ((serve taken wishes).reverse ++ taken) more := by
  induction wishes generalizing taken with
  | nil => rfl
  | cons wish wishes ih =>
    simp only [List.cons_append, serve, ih, List.reverse_cons, List.append_assoc, List.nil_append]

@[simp] theorem length_serve (taken wishes : List String) :
    (serve taken wishes).length = wishes.length := by
  induction wishes generalizing taken with
  | nil => rfl
  | cons wish wishes ih => rw [serve, List.length_cons, ih, List.length_cons]

theorem firstFree_congr {taken other : List String} (same : ∀ n, n ∈ taken ↔ n ∈ other)
    (wish : String) :
    firstFree otherwise taken wish = firstFree otherwise other wish :=
  ((firstFree_served taken wish).congr same).unique (firstFree_served other wish)

/-- Of the forbidden names it matters only which they are. -/
theorem serve_congr {taken other : List String} (same : ∀ n, n ∈ taken ↔ n ∈ other)
    (wishes : List String) :
    serve taken wishes = serve other wishes := by
  induction wishes generalizing taken other with
  | nil => rfl
  | cons wish wishes ih =>
    have first := firstFree_congr same wish
    have next : ∀ n, n ∈ firstFree otherwise taken wish :: taken ↔
        n ∈ firstFree otherwise other wish :: other := by
      intro n
      rw [List.mem_cons, List.mem_cons, first, same n]
    rw [serve, serve, ih next, first]

namespace Scope
variable {κ : Type} [DecidableEq κ]

/-- Distinct new keys get the names that are served for their wishes. -/
theorem grantAll_served {s : Scope κ} {requests : List (κ × String)}
    (fresh : ∀ request ∈ requests, s.name? request.1 = none) (once : (requests.map (·.1)).Nodup) :
    requests.map (fun request => (s.grantAll requests).name? request.1) =
      (serve s.taken (requests.map (·.2))).map some := by
  induction requests generalizing s with
  | nil => rfl
  | cons request requests ih =>
    obtain ⟨unnamed, others⟩ := List.forall_mem_cons.mp fresh
    obtain ⟨notLater, once⟩ := List.nodup_cons.mp once
    have given : s.grant request = s.give request.1 (firstFree otherwise s.taken request.2) := by
      simp only [grant, unnamed, give]
    have stillFresh : ∀ later ∈ requests, (s.grant request).name? later.1 = none := by
      intro later inside
      have apart : later.1 ≠ request.1 :=
        fun same => notLater (List.mem_map.mpr ⟨later, inside, same⟩)
      rw [given, name?_give_of_ne apart, others later inside]
    have first : (s.grant request).name? request.1 =
        some (firstFree otherwise s.taken request.2) := by
      rw [given, name?_give_self unnamed]
    have taken : (s.grant request).taken = firstFree otherwise s.taken request.2 :: s.taken := by
      rw [given]
      rfl
    have rest := ih stillFresh once
    rw [taken] at rest
    exact List.cons_eq_cons.mpr ⟨name?_grantAll first requests, rest⟩

end Scope
end Shapewright.Registry

namespace Shapewright.Plan
open Identifier Registry Result

variable {p q : Plan} {g h : Graph} {forbidden others : List String}

/-- The name that a class or a union would like. -/
def wishOfType (g : Graph) : RecordClass ⊕ Shape → String
  | .inl c => styledText c.baseName
  | .inr u => unionText g u

theorem typeRequests_wishes (g : Graph) :
    (typeRequests g).map (·.2) = (typesOf g).map (wishOfType g) := by
  simp [typeRequests, typesOf, wishOfType, Function.comp_def]

theorem Settled.nameOfType_eq (settled : Settled p g forbidden) {t : RecordClass ⊕ Shape}
    (ht : t ∈ typesOf g) :
    p.nameOfType t = .ok (typeName g forbidden (keyOfType t)) := by
  cases t with
  | inl c => exact settled.className_eq (by simpa [typesOf] using ht)
  | inr u => exact settled.unionName_eq (by simpa [typesOf] using ht)

/-- The names that are found in a finished scope are the ones that were served in it. -/
theorem served_of_scope {names : Names} {scope : ScopeKey} {label : String} {avoid : List String}
    {requests : List (NameKey × String)}
    (there : names.scope? scope = some ((Scope.new label avoid).grantAll requests).freeze)
    (once : (requests.map (·.1)).Nodup) :
    (requests.map (·.1)).map (fun key => ofNaming (names.find scope key)) =
      (serve avoid (requests.map (·.2))).map .ok := by
  have found : ∀ request ∈ requests, ofNaming (names.find scope request.1) =
      .ok ((((Scope.new label avoid).grantAll requests).name? request.1).getD "") := by
    intro request asked
    obtain ⟨name, named⟩ := Scope.exists_name?_grantAll asked (.new label avoid)
    rw [ofNaming_eq_ok.mpr ((find_eq_ok there).mpr named), named, Option.getD_some]
  have served := Scope.grantAll_served (s := .new label avoid) (fun _ _ => rfl) once
  calc (requests.map (·.1)).map (fun key => ofNaming (names.find scope key))
      = (requests.map fun request =>
        ((Scope.new label avoid).grantAll requests).name? request.1).map fun name =>
          .ok (name.getD "") := by
        rw [List.map_map, List.map_map]
        exact List.map_congr_left found
    _ = (serve avoid (requests.map (·.2))).map .ok := by
        rw [served, List.map_map]
        rfl

/-- The names of all types are the ones that are served for their wishes. -/
theorem Settled.types_served (settled : Settled p g forbidden) (wf : g.WellFormed) :
    (typesOf g).map p.nameOfType = (serve forbidden ((typesOf g).map (wishOfType g))).map .ok := by
  have once : ((typeRequests g).map (·.1)).Nodup := by
    rw [typeRequests_keys]
    exact (typesOf_nodup wf).map_on fun a ha b hb => keyOfType_inj wf ha hb
  have served := served_of_scope settled.types once
  rw [typeRequests_wishes, typeRequests_keys, List.map_map] at served
  exact (List.map_congr_left fun t _ => p.nameOfType_find t).trans served

/-- The name that is served after some wishes. -/
def servedAfter (forbidden wishes : List String) (wish : String) : String :=
  firstFree otherwise ((serve forbidden wishes).reverse ++ forbidden) wish

theorem servedAfter_congr {forbidden other : List String} (same : ∀ n, n ∈ forbidden ↔ n ∈ other)
    (wishes : List String) (wish : String) :
    servedAfter forbidden wishes wish = servedAfter other wishes wish := by
  refine firstFree_congr (fun n => ?_) wish
  rw [List.mem_append, List.mem_append, serve_congr same, same]

/-- Each type is served after the types before it. -/
theorem Settled.served_at (settled : Settled p g forbidden) (wf : g.WellFormed)
    {t : RecordClass ⊕ Shape} {before after : List (RecordClass ⊕ Shape)}
    (split : typesOf g = before ++ t :: after) :
    before.map p.nameOfType = (serve forbidden (before.map (wishOfType g))).map .ok ∧
      p.nameOfType t = .ok (servedAfter forbidden (before.map (wishOfType g))
        (wishOfType g t)) := by
  have served := settled.types_served wf
  rw [split, List.map_append, List.map_append, serve_append, List.map_append, List.map_cons,
    List.map_cons, serve, List.map_cons] at served
  obtain ⟨names, rest⟩ := List.append_inj served (by simp)
  exact ⟨names, (List.cons.inj rest).1⟩

theorem Settled.firstServed (settled : Settled p g forbidden) (wf : g.WellFormed)
    {t : RecordClass ⊕ Shape} {before after : List (RecordClass ⊕ Shape)}
    (split : typesOf g = before ++ t :: after) :
    ∃ name, p.nameOfType t = .ok name ∧
      FirstServed (wishOfType g t)
        (fun n => n ∈ forbidden ∨ ∃ b ∈ before, p.nameOfType b = .ok n) name := by
  obtain ⟨names, named⟩ := settled.served_at wf split
  refine ⟨_, named, (firstFree_served _ _).congr fun n => ?_⟩
  have earlier : n ∈ serve forbidden (before.map (wishOfType g)) ↔
      ∃ b ∈ before, p.nameOfType b = .ok n := by
    rw [← List.mem_map, names, List.mem_map_of_injective fun _ _ => Except.ok.inj]
  rw [List.mem_append, List.mem_reverse, earlier, or_comm]

theorem typesOf_class {c : RecordClass} {before after : List RecordClass}
    (split : g.classes = before ++ c :: after) :
    typesOf g = before.map .inl ++ .inl c :: (after.map .inl ++ g.unions.map .inr) := by
  rw [typesOf, split, List.map_append, List.map_cons, List.append_assoc, List.cons_append]

theorem typesOf_union {u : Shape} {before after : List Shape}
    (split : g.unions = before ++ u :: after) :
    typesOf g = (g.classes.map .inl ++ before.map .inr) ++ .inr u :: after.map .inr := by
  rw [typesOf, split, List.map_append, List.map_cons, List.append_assoc]

/-- Each class gets the first name of its chain that is neither forbidden nor the name of an earlier
class, each generated union, in the order of their first occurrences, the first one that is not the
name of a class or of an earlier union either. -/
structure ServedInOrder (g : Graph) (forbidden : List String) (p : Plan) : Prop where
  order : g.UnionsInOrder p.unions
  classes : ∀ before c after, g.classes = before ++ c :: after →
    ∃ name, p.className c.ref = .ok name ∧
    FirstServed (styledText c.baseName) (fun n => n ∈ forbidden ∨ ∃ d ∈ before,
      p.className d.ref = .ok n) name
  unions : ∀ before u after, p.unions = before ++ u :: after → ∃ wish name,
    unionBaseName g (membersOf u) = .ok wish ∧ p.unionName u = .ok name ∧
    FirstServed wish (fun n => n ∈ forbidden ∨ (∃ c ∈ g.classes, p.className c.ref = .ok n) ∨
      ∃ v ∈ before, p.unionName v = .ok n) name

theorem Settled.servedInOrder (settled : Settled p g forbidden) (wf : g.WellFormed) :
    ServedInOrder g forbidden p where
  order := settled.unions ▸ g.unions_inOrder
  classes before c after split := by
    obtain ⟨name, named, served⟩ := settled.firstServed wf (typesOf_class split)
    refine ⟨name, named, served.congr fun n => ?_⟩
    simp only [List.mem_map, exists_exists_and_eq_and, nameOfType]
  unions before u after split := by
    rw [settled.unions] at split
    have hu : u ∈ g.unions := split ▸ List.mem_append_right _ List.mem_cons_self
    obtain ⟨name, named, served⟩ := settled.firstServed wf (typesOf_union split)
    refine ⟨_, name, unionBaseName_eq wf hu, named, served.congr fun n => ?_⟩
    simp only [List.mem_append, List.mem_map, or_and_right, exists_or, exists_exists_and_eq_and,
      nameOfType]

/-- Classes at the same place have the same name, if their base names agree and those of
all classes before them do. -/
def ClassesAgree (g h : Graph) (p q : Plan) : Prop :=
  ∀ before c after before' c' after', g.classes = before ++ c :: after →
    h.classes = before' ++ c' :: after' →
    (before ++ [c]).map (·.baseName) = (before' ++ [c']).map (·.baseName) →
    p.className c.ref = q.className c'.ref

/-- Classes with the same name and the same keys have the same names for their properties. -/
def PropertiesAgree (g h : Graph) (p q : Plan) : Prop :=
  ∀ c ∈ g.classes, ∀ d ∈ h.classes, p.className c.ref = q.className d.ref →
    (∀ key, key ∈ c.properties.keys ↔ key ∈ d.properties.keys) →
    ∀ key ∈ c.properties.keys, p.propertyName c.ref key = q.propertyName d.ref key

theorem wishes_of_baseNames (before : List RecordClass) :
    (before.map .inl).map (wishOfType g) = (before.map (·.baseName)).map styledText := by
  rw [List.map_map, List.map_map]
  rfl

theorem Settled.classesAgree (settled : Settled p g forbidden) (settled' : Settled q h others)
    (wf : g.WellFormed) (wf' : h.WellFormed) (same : ∀ n, n ∈ forbidden ↔ n ∈ others) :
    ClassesAgree g h p q := by
  intro before c after before' c' after' split split' names
  simp only [List.map_append, List.map_cons, List.map_nil] at names
  obtain ⟨earlier, own⟩ := List.append_inj' names rfl
  have first := (settled.served_at wf (typesOf_class split)).2
  have second := (settled'.served_at wf' (typesOf_class split')).2
  have wish : styledText c.baseName = styledText c'.baseName :=
    congrArg styledText (List.cons.inj own).1
  rw [wishes_of_baseNames, earlier, wishOfType, wish, servedAfter_congr same] at first
  rw [wishes_of_baseNames, wishOfType] at second
  exact first.trans second.symm

theorem propertyScope_congr {c d : RecordClass} (keys : c.properties.keys = d.properties.keys)
    (name : String) :
    propertyScope c name = propertyScope d name := by
  rw [propertyScope, propertyScope, propertyRequests, propertyRequests, keys]

theorem Settled.propertyName_eq_ok (settled : Settled p g forbidden) {c : RecordClass}
    (hc : c ∈ g.classes) {key : Text} {name : String} :
    p.propertyName c.ref key = .ok name ↔
      (propertyScope c (typeName g forbidden (.record c.ref))).freeze.name? (.property key) =
        some name :=
  ofNaming_eq_ok.trans (find_eq_ok (settled.properties c hc))

/-- The scope of a class is filled from its name and its keys alone. -/
theorem Settled.propertiesAgree (settled : Settled p g forbidden) (settled' : Settled q h others)
    (increasing : ∀ c ∈ g.classes, c.properties.keys.Pairwise (· < ·))
    (increasing' : ∀ d ∈ h.classes, d.properties.keys.Pairwise (· < ·)) :
    PropertiesAgree g h p q := by
  intro c hc d hd className sameKeys key hk
  rw [settled.className_eq hc, settled'.className_eq hd] at className
  have keys := Document.increasing_ext (increasing c hc) (increasing' d hd) sameKeys
  obtain ⟨name, found⟩ := settled.propertyName_ok hc hk
  have foundToo := (settled.propertyName_eq_ok hc).mp found
  rw [propertyScope_congr keys, Except.ok.inj className] at foundToo
  rw [found, (settled'.propertyName_eq_ok hd).mpr foundToo]

/-- The types of every accepted document are named in order, each by the first free name
of its chain. So two documents, however they differ otherwise, name their classes alike up
to the first one with another base name, and name the properties of classes with the same
name and the same keys alike. -/
theorem types_first_served {document document' : Json} {g h : Graph}
    (accepted : Document.readGraph document = .ok g)
    (accepted' : Document.readGraph document' = .ok h) (forbidden others : List String) :
    ∃ p q, ofGraph g forbidden = .ok p ∧ ofGraph h others = .ok q ∧ ServedInOrder g forbidden p ∧
      ((∀ n, n ∈ forbidden ↔ n ∈ others) → ClassesAgree g h p q) ∧
      (document.KeysOnce → document'.KeysOnce → PropertiesAgree g h p q) := by
  have wf := Document.readGraph_wellFormed accepted
  have wf' := Document.readGraph_wellFormed accepted'
  obtain ⟨p, planned, settled⟩ := ofGraph_ok wf forbidden
  obtain ⟨q, planned', settled'⟩ := ofGraph_ok wf' others
  refine ⟨p, q, planned, planned', settled.servedInOrder wf, settled.classesAgree settled' wf wf',
    fun once once' => settled.propertiesAgree settled' (fun c hc => ?_) fun d hd => ?_⟩
  · exact Document.class_keys_increasing once accepted hc
  · exact Document.class_keys_increasing once' accepted' hd

/-- The same class with another type for its property, and behind it one that asks for the
name that collisions lead to. -/
def crowdedDocument : Json := .object [
  ("classes", .object [
    ("Pet", .object [("properties", .object [("id", .string "integer")])]),
    ("OtherPet", .object [("properties", .object [])])]),
  ("top_level", .string "null")]

def crowdedGraph : Graph :=
  ⟨[⟨"Pet", ["Pet"], [("id", .integer)]⟩, ⟨"OtherPet", ["OtherPet"], []⟩], .null⟩

theorem sample_first_served :
    Document.sampleDocument.KeysOnce ∧ crowdedDocument.KeysOnce ∧
      ∃ p q, ofGraph Document.sampleGraph ["Pet"] = .ok p ∧ ofGraph crowdedGraph ["Pet"] = .ok q ∧
        ServedInOrder Document.sampleGraph ["Pet"] p ∧ p.className "Pet" = q.className "Pet" ∧
        p.propertyName "Pet" "id" = q.propertyName "Pet" "id" := by
  have once : crowdedDocument.KeysOnce := by simp [crowdedDocument, Entries.keys]
  have accepted : Document.readGraph crowdedDocument = .ok crowdedGraph := rfl
  obtain ⟨p, q, planned, planned', served, classes, properties⟩ :=
    types_first_served Document.readGraph_sample accepted ["Pet"] ["Pet"]
  have className : p.className "Pet" = q.className "Pet" :=
    classes (fun _ => Iff.rfl) [] _ _ [] _ _ rfl rfl rfl
  have same :=
    properties Document.sampleDocument_keysOnce once _ List.mem_cons_self _ List.mem_cons_self
      className
    (fun _ => Iff.rfl) "id" List.mem_cons_self
  exact ⟨Document.sampleDocument_keysOnce, once, p, q, planned, planned', served, className, same⟩

end Shapewright.Plan
