import Shapewright.Proofs.Layout.Calm

/-!
# What happens in a run

The history of operations is a flat list of events: texts, bodies that are entered and then left or
abandoned, and what is raised and caught. It knows of no levels. A run writes the lines of its
history, each as deep as bodies are open around it, and comes back to its level whichever way it
ends. A block that is abandoned keeps its opening brace and gets no other, so braces match exactly
where no block is abandoned.
-/
namespace Shapewright.Layout

/-- What encloses operations: a block in braces, or indentation alone. -/
inductive Body where
  | braces
  | plain
  deriving DecidableEq, Repr

inductive Event where
  | text (t : String)
  | enter (b : Body)
  | leave (b : Body)
  /-- Leaves a body while giving up. -/
  | abandon (b : Body)
  | raise
  | caught
  deriving DecidableEq, Repr

def Ending.exit : Ending → Body → Event
  | .done => .leave
  | .raised => .abandon

structure History where
  events : List Event
  ending : Ending

namespace History

def ofTexts (texts : List String) : History := ⟨texts.map .text, .done⟩

/-- Nothing more happens after giving up. -/
def andThen (h k : History) : History :=
  match h.ending with
  | .done => ⟨h.events ++ k.events, k.ending⟩
  | .raised => h

def inside (b : Body) (h : History) : History :=
  ⟨.enter b :: (h.events ++ [h.ending.exit b]), h.ending⟩

def attempted (h : History) : History :=
  match h.ending with
  | .done => h
  | .raised => ⟨h.events ++ [.caught], .done⟩

end History

open History

mutual
def Op.history : Op → History
  | .line text => ofTexts [text]
  | .lines texts => ofTexts texts
  | .blank => ofTexts [""]
  | .block header body => (ofTexts header.toList).andThen (inside .braces (allHistory body))
  | .indented body => inside .plain (allHistory body)
  | .separated parts => partsHistory true parts
  | .level => ofTexts []
  | .raise => ⟨[.raise], .raised⟩
  | .attempt body => (allHistory body).attempted

def allHistory : List Op → History
  | [] => ofTexts []
  | op :: ops => op.history.andThen (allHistory ops)

def partsHistory (first : Bool) : List (List Op) → History
  | [] => ofTexts []
  | part :: parts =>
    (ofTexts (if first then [] else [""])).andThen
      ((allHistory part).andThen (partsHistory false parts))
end

/-- Every body that is entered is left or abandoned, the last one first. -/
inductive Balanced : List Event → Prop
  | nil : Balanced []
  | text {t : String} {es : List Event} : Balanced es → Balanced (.text t :: es)
  | raise {es : List Event} : Balanced es → Balanced (.raise :: es)
  | caught {es : List Event} : Balanced es → Balanced (.caught :: es)
  | body {b : Body} {ending : Ending} {inner rest : List Event} : Balanced inner → Balanced rest →
      Balanced (.enter b :: (inner ++ ending.exit b :: rest))

/-- What was raised abandons bodies and does nothing else until it is caught.
Nothing else abandons a body. -/
inductive Flows : Ending → List Event → Ending → Prop
  | stop {ending : Ending} : Flows ending [] ending
  | text {t : String} {es : List Event} {ending : Ending} :
      Flows .done es ending → Flows .done (.text t :: es) ending
  | enter {b : Body} {es : List Event} {ending : Ending} :
      Flows .done es ending → Flows .done (.enter b :: es) ending
  | leave {b : Body} {es : List Event} {ending : Ending} :
      Flows .done es ending → Flows .done (.leave b :: es) ending
  | raise {es : List Event} {ending : Ending} :
      Flows .raised es ending → Flows .done (.raise :: es) ending
  | abandon {b : Body} {es : List Event} {ending : Ending} : Flows .raised es ending →
      Flows .raised (.abandon b :: es) ending
  | caught {es : List Event} {ending : Ending} :
      Flows .done es ending → Flows .raised (.caught :: es) ending

inductive Role where
  | text
  | opening
  | closing
  deriving DecidableEq, Repr

/-- A line and what it is there for; `depth` bodies are open around it. -/
structure Mark where
  role : Role
  depth : Nat
  text : String

def Mark.line (m : Mark) : Line := lineAt m.depth m.text

/-- The lines of a history. Entering opens a body, and leaving or abandoning closes it;
only leaving writes a brace. -/
def laid (depth : Nat) : List Event → List Mark
  | [] => []
  | .text t :: es => ⟨.text, depth, t⟩ :: laid depth es
  | .enter .braces :: es => ⟨.opening, depth, "\x7b"⟩ :: laid (depth + 1) es
  | .enter .plain :: es => laid (depth + 1) es
  | .leave .braces :: es => ⟨.closing, depth - 1, "\x7d"⟩ :: laid (depth - 1) es
  | .leave .plain :: es => laid (depth - 1) es
  | .abandon _ :: es => laid (depth - 1) es
  | .raise :: es => laid depth es
  | .caught :: es => laid depth es

/-- Braces in pairs, the two of a pair at one depth and everything between them deeper. -/
inductive Braced : List Mark → Prop
  | nil : Braced []
  | text {depth : Nat} {t : String} {ms : List Mark} : Braced ms → Braced (⟨.text, depth, t⟩ :: ms)
  | block {depth : Nat} {inner rest : List Mark} :
      Braced inner → (∀ m ∈ inner, depth < m.depth) → Braced rest →
      Braced (⟨.opening, depth, "\x7b"⟩ :: (inner ++ ⟨.closing, depth, "\x7d"⟩ :: rest))

section Events
variable {es fs inner rest : List Event} {a c : Ending} {b : Body} {depth : Nat}

theorem Balanced.append (he : Balanced es) (hf : Balanced fs) : Balanced (es ++ fs) := by
  induction he with
  | nil => exact hf
  | text _ ih => exact .text ih
  | raise _ ih => exact .raise ih
  | caught _ ih => exact .caught ih
  | body inner _ _ ih =>
    rw [List.cons_append, List.append_assoc, List.cons_append]
    exact .body inner ih

theorem balanced_texts (texts : List String) : Balanced (texts.map .text) := by
  induction texts with
  | nil => exact .nil
  | cons t texts ih => exact .text ih

theorem Flows.append {e : Ending} (he : Flows a es c) (hf : Flows c fs e) :
    Flows a (es ++ fs) e := by
  induction he with
  | stop => exact hf
  | text _ ih => exact .text (ih hf)
  | enter _ ih => exact .enter (ih hf)
  | leave _ ih => exact .leave (ih hf)
  | raise _ ih => exact .raise (ih hf)
  | abandon _ ih => exact .abandon (ih hf)
  | caught _ ih => exact .caught (ih hf)

theorem flows_texts (texts : List String) : Flows .done (texts.map .text) .done := by
  induction texts with
  | nil => exact .stop
  | cons t texts ih => exact .text ih

theorem flows_exit (ending : Ending) (b : Body) : Flows ending [ending.exit b] ending := by
  cases ending with
  | done => exact .leave .stop
  | raised => exact .abandon .stop

/-- Where nothing is raised nothing is abandoned. -/
theorem Flows.not_abandoned (h : Flows a es c) (going : a = .done) (calm : .raise ∉ es) :
    .abandon b ∉ es := by
  induction h with
  | stop => simp
  | text _ ih => simpa using ih rfl (by simpa using calm)
  | enter _ ih => simpa using ih rfl (by simpa using calm)
  | leave _ ih => simpa using ih rfl (by simpa using calm)
  | raise => exact absurd List.mem_cons_self calm
  | abandon => cases going
  | caught => cases going

/-- The marks of the events that enter a body and get out of it. -/
def opening (depth : Nat) : Body → List Mark
  | .braces => [⟨.opening, depth, "\x7b"⟩]
  | .plain => []

def closing (depth : Nat) : Ending → Body → List Mark
  | .done, .braces => [⟨.closing, depth, "\x7d"⟩]
  | _, _ => []

@[simp] theorem closing_plain (depth : Nat) (ending : Ending) :
    closing depth ending .plain = [] := by
  cases ending <;> rfl

theorem laid_enter (depth : Nat) (b : Body) (es : List Event) :
    laid depth (.enter b :: es) = opening depth b ++ laid (depth + 1) es := by
  cases b <;> rfl

theorem laid_exit (depth : Nat) (ending : Ending) (b : Body) (es : List Event) :
    laid (depth + 1) (ending.exit b :: es) = closing depth ending b ++ laid depth es := by
  cases ending <;> cases b <;> rfl

/-- What is balanced leaves the depth as it was. -/
theorem Balanced.laid_append (h : Balanced es) (depth : Nat) (fs : List Event) :
    laid depth (es ++ fs) = laid depth es ++ laid depth fs := by
  induction h generalizing depth fs with
  | nil => rfl
  | text _ ih => simp only [List.cons_append, laid, ih]
  | raise _ ih => simp only [List.cons_append, laid, ih]
  | caught _ ih => simp only [List.cons_append, laid, ih]
  | body _ _ ihInner ihRest =>
    simp only [List.cons_append, List.append_assoc, laid_enter, ihInner, laid_exit, ihRest]

theorem Balanced.laid_body (h : Balanced inner) (depth : Nat) (b : Body) (ending : Ending)
    (rest : List Event) :
    laid depth (.enter b :: (inner ++ ending.exit b :: rest)) =
      opening depth b ++
        (laid (depth + 1) inner ++ (closing depth ending b ++ laid depth rest)) := by
  rw [laid_enter, h.laid_append, laid_exit]

theorem opening_depth (depth : Nat) (b : Body) : ∀ m ∈ opening depth b, m.depth = depth := by
  cases b <;> simp [opening]

theorem closing_depth (depth : Nat) (ending : Ending) (b : Body) :
    ∀ m ∈ closing depth ending b, m.depth = depth := by
  cases ending <;> cases b <;> simp [closing]

theorem Balanced.le_depth (h : Balanced es) (depth : Nat) :
    ∀ m ∈ laid depth es, depth ≤ m.depth := by
  induction h generalizing depth with
  | nil => simp [laid]
  | text _ ih => exact List.forall_mem_cons.mpr ⟨Nat.le_refl _, ih depth⟩
  | raise _ ih => exact ih depth
  | caught _ ih => exact ih depth
  | @body b ending inner rest hInner _ ihInner ihRest =>
    rw [hInner.laid_body]
    simp only [List.forall_mem_append]
    refine ⟨fun m hm => ?_, fun m hm => Nat.le_of_succ_le (ihInner (depth + 1) m hm),
      fun m hm => ?_, ihRest depth⟩
    · exact Nat.le_of_eq (opening_depth depth b m hm).symm
    · exact Nat.le_of_eq (closing_depth depth ending b m hm).symm

theorem Braced.append {ms ns : List Mark} (hm : Braced ms) (hn : Braced ns) :
    Braced (ms ++ ns) := by
  induction hm with
  | nil => exact hn
  | text _ ih => exact .text ih
  | block inner deeper _ _ ih =>
    rw [List.cons_append, List.append_assoc, List.cons_append]
    exact .block inner deeper ih

theorem Balanced.braced (h : Balanced es) (depth : Nat) (kept : .abandon .braces ∉ es) :
    Braced (laid depth es) := by
  induction h generalizing depth with
  | nil => exact .nil
  | text _ ih => exact .text (ih depth (by simpa using kept))
  | raise _ ih => exact ih depth (by simpa using kept)
  | caught _ ih => exact ih depth (by simpa using kept)
  | @body b ending inner rest hInner _ ihInner ihRest =>
    simp only [List.mem_cons, List.mem_append, not_or] at kept
    obtain ⟨-, keptInner, closed, keptRest⟩ := kept
    have within := ihInner (depth + 1) keptInner
    have behind := ihRest depth keptRest
    rw [hInner.laid_body]
    cases b with
    | plain =>
      rw [closing_plain]
      exact within.append behind
    | braces =>
      cases ending with
      | done => exact .block within (hInner.le_depth (depth + 1)) behind
      | raised => exact absurd rfl closed

theorem Braced.count_eq {ms : List Mark} (h : Braced ms) :
    ms.countP (·.role = .opening) = ms.countP (·.role = .closing) := by
  induction h with
  | nil => rfl
  | text _ ih => simpa using ih
  | block _ _ _ ihInner ihRest => simp [ihInner, ihRest]; omega

/-- Every abandoned block leaves an opening brace without a partner. -/
theorem Balanced.count_laid (h : Balanced es) (depth : Nat) :
    (laid depth es).countP (·.role = .opening) =
      (laid depth es).countP (·.role = .closing) + es.count (.abandon .braces) := by
  induction h generalizing depth with
  | nil => rfl
  | text _ ih => simpa [laid] using ih depth
  | raise _ ih => simpa [laid] using ih depth
  | caught _ ih => simpa [laid] using ih depth
  | @body b ending inner rest hInner _ ihInner ihRest =>
    rw [hInner.laid_body]
    cases b <;> cases ending <;>
      simp [opening, closing, Ending.exit, ihInner (depth + 1), ihRest depth] <;> omega

theorem Balanced.braced_iff (h : Balanced es) (depth : Nat) :
    Braced (laid depth es) ↔ .abandon .braces ∉ es := by
  refine ⟨fun braced => ?_, h.braced depth⟩
  have counts := h.count_laid depth
  rw [braced.count_eq] at counts
  exact List.count_eq_zero.mp (by omega)

end Events

/-- Bodies close in order, and what is raised ends them all until it is caught. -/
structure History.IsSound (h : History) : Prop where
  balanced : Balanced h.events
  flows : Flows .done h.events h.ending

section Sound
variable {h k : History}

theorem sound_ofTexts (texts : List String) : (ofTexts texts).IsSound :=
  ⟨balanced_texts texts, flows_texts texts⟩

theorem History.IsSound.andThen (hh : h.IsSound) (hk : k.IsSound) : (h.andThen k).IsSound := by
  obtain ⟨events, ending⟩ := h
  cases ending with
  | done => exact ⟨hh.balanced.append hk.balanced, hh.flows.append hk.flows⟩
  | raised => exact hh

theorem History.IsSound.inside (hh : h.IsSound) (b : Body) : (h.inside b).IsSound :=
  ⟨.body hh.balanced .nil, .enter (hh.flows.append (flows_exit h.ending b))⟩

theorem History.IsSound.attempted (hh : h.IsSound) : h.attempted.IsSound := by
  obtain ⟨events, ending⟩ := h
  cases ending with
  | done => exact hh
  | raised => exact ⟨hh.balanced.append (.caught .nil), hh.flows.append (.caught .stop)⟩

theorem History.IsSound.laid_inside (hh : h.IsSound) (b : Body) (depth : Nat) :
    laid depth (h.inside b).events =
      opening depth b ++ (laid (depth + 1) h.events ++ closing depth h.ending b) := by
  have body := hh.balanced.laid_body depth b h.ending []
  rwa [laid, List.append_nil] at body

end Sound

mutual
theorem Op.history_sound : ∀ op : Op, op.history.IsSound
  | .line text => sound_ofTexts [text]
  | .lines texts => sound_ofTexts texts
  | .blank => sound_ofTexts [""]
  | .block header body =>
    (sound_ofTexts header.toList).andThen ((allHistory_sound body).inside .braces)
  | .indented body => (allHistory_sound body).inside .plain
  | .separated parts => partsHistory_sound true parts
  | .level => sound_ofTexts []
  | .raise => ⟨.raise .nil, .raise .stop⟩
  | .attempt body => (allHistory_sound body).attempted

theorem allHistory_sound : ∀ ops : List Op, (allHistory ops).IsSound
  | [] => sound_ofTexts []
  | op :: ops => (Op.history_sound op).andThen (allHistory_sound ops)

theorem partsHistory_sound (first : Bool) :
    ∀ parts : List (List Op), (partsHistory first parts).IsSound
  | [] => sound_ofTexts []
  | part :: parts =>
    (sound_ofTexts _).andThen ((allHistory_sound part).andThen (partsHistory_sound false parts))
end

/-- A run from `w` ends as the history does and has written its lines. -/
structure Plays (w : Writer) (run : Writer × Ending) (h : History) : Prop where
  ending : run.2 = h.ending
  wrote : Wrote w ((laid w.level h.events).map Mark.line) run.1

/-- More follows a run that is done. -/
def goingOn (rest : Writer → Writer × Ending) : Writer × Ending → Writer × Ending
  | (v, .done) => rest v
  | (v, .raised) => (v, .raised)

/-- The run is the body of a block, and its end is the end of the block. -/
def inBraces : Writer × Ending → Writer × Ending
  | (v, .done) => (v.dedent.line "\x7d", .done)
  | (v, .raised) => (v.dedent, .raised)

def tried : Writer × Ending → Writer × Ending
  | (v, .done) => (v, .done)
  | (v, .raised) => (v.note .caught, .done)

section Runs
variable {w : Writer} {run : Writer × Ending} {h k : History}

theorem plays_texts (w : Writer) (texts : List String) :
    Plays w (texts.foldl Writer.line w, .done) (ofTexts texts) := by
  have same (depth : Nat) :
      (laid depth (texts.map .text)).map Mark.line = texts.map (lineAt depth) := by
    induction texts with
    | nil => rfl
    | cons t texts ih => exact congrArg _ ih
  refine ⟨rfl, ?_⟩
  rw [ofTexts, same]
  exact wrote_lines w texts

theorem Plays.andThen {rest : Writer → Writer × Ending} (first : Plays w run h) (sound : h.IsSound)
    (second : ∀ v, Plays v (rest v) k) :
    Plays w (goingOn rest run) (h.andThen k) := by
  obtain ⟨v, ending⟩ := run
  obtain ⟨events, _⟩ := h
  obtain rfl := first.ending
  cases ending with
  | raised => exact first
  | done =>
    obtain ⟨ended, wrote⟩ := second v
    rw [first.wrote.level] at wrote
    refine ⟨ended, ?_⟩
    rw [History.andThen, sound.balanced.laid_append, List.map_append]
    exact first.wrote.trans wrote

/-- Comes back to the level however the body ends. -/
theorem Plays.indented (body : Plays w.indent run h) (sound : h.IsSound) :
    Plays w (run.1.dedent, run.2) (h.inside .plain) := by
  refine ⟨body.ending, ?_⟩
  rw [sound.laid_inside, closing_plain, List.append_nil]
  exact body.wrote.dedent

/-- The closing brace is written where the body is done, and only there. -/
theorem Plays.braced (body : Plays (w.line "\x7b").indent run h) (sound : h.IsSound) :
    Plays w (inBraces run) (h.inside .braces) := by
  obtain ⟨v, ending⟩ := run
  obtain ⟨events, _⟩ := h
  obtain rfl := body.ending
  have inside := (wrote_line w "\x7b").trans body.wrote.dedent
  cases ending with
  | raised =>
    refine ⟨rfl, ?_⟩
    rw [sound.laid_inside]
    simp only [opening, closing, List.append_nil, List.map_append]
    exact inside
  | done =>
    have closed := inside.trans (wrote_line v.dedent "\x7d")
    rw [inside.level] at closed
    refine ⟨rfl, ?_⟩
    rw [sound.laid_inside]
    simp only [opening, closing, List.map_append, ← List.append_assoc]
    exact closed

theorem Plays.attempted (body : Plays w run h) (sound : h.IsSound) :
    Plays w (tried run) h.attempted := by
  obtain ⟨v, ending⟩ := run
  obtain ⟨events, _⟩ := h
  obtain rfl := body.ending
  cases ending with
  | done => exact body
  | raised =>
    refine ⟨rfl, ?_⟩
    rw [History.attempted, sound.balanced.laid_append]
    simp only [laid, List.append_nil]
    exact body.wrote.note .caught

end Runs

mutual
theorem Op.run_plays : ∀ (op : Op) (w : Writer), Plays w (op.run w) op.history
  | .line text, w => plays_texts w [text]
  | .lines texts, w => plays_texts w texts
  | .blank, w => plays_texts w [""]
  | .block header body, w => by
    have headed : (Op.block header body).run w =
        (Op.block none body).run (header.toList.foldl Writer.line w) := by
      cases header <;> rfl
    rw [headed]
    exact (plays_texts w header.toList).andThen (sound_ofTexts _)
      fun v => (runAll_plays body (v.line "\x7b").indent).braced (allHistory_sound body)
  | .indented body, w => (runAll_plays body w.indent).indented (allHistory_sound body)
  | .separated parts, w => runParts_plays true parts w
  | .level, w => ⟨rfl, (Wrote.refl w).note _⟩
  | .raise, w => ⟨rfl, .refl w⟩
  | .attempt body, w => (runAll_plays body w).attempted (allHistory_sound body)

theorem runAll_plays : ∀ (ops : List Op) (w : Writer), Plays w (runAll w ops) (allHistory ops)
  | [], w => plays_texts w []
  | op :: ops, w => (Op.run_plays op w).andThen (Op.history_sound op) (runAll_plays ops)

theorem runParts_plays (first : Bool) : ∀ (parts : List (List Op)) (w : Writer),
    Plays w (runParts first w parts) (partsHistory first parts)
  | [], w => plays_texts w []
  | part :: parts, w => by
    have gap : (if first then w else w.line "") =
        (if first then [] else [""]).foldl Writer.line w := by
      cases first <;> rfl
    rw [runParts, gap]
    exact (plays_texts w (if first then [] else [""])).andThen (sound_ofTexts _)
      fun v => (runAll_plays part v).andThen (allHistory_sound part) (runParts_plays false parts)
end

/-- How a mark reads: its text behind one unit for each body that is open around it. An empty text
has nothing before it. -/
def Mark.shown (unit : String) (m : Mark) : String :=
  if m.text = "" then "" else String.join (List.replicate m.depth unit) ++ m.text

theorem Mark.render_line (unit : String) (m : Mark) : m.line.render unit = m.shown unit := by
  unfold Mark.line lineAt Mark.shown
  by_cases empty : m.text = ""
  · simp [empty, Line.render]
  · simp [empty, Line.render]

/-- What holds of a run from `w` with that history, whichever way it ends. -/
structure LaysOut (w : Writer) (run : Writer × Ending) (h : History) : Prop where
  ending : run.2 = h.ending
  level : run.1.level = w.level
  lines : ∀ unit : String, run.1.lines.map (·.render unit) =
    w.lines.map (·.render unit) ++ (laid w.level h.events).map (Mark.shown unit)
  sound : h.IsSound
  /-- An abandoned block is the only thing that spoils the braces. -/
  braced_iff : Braced (laid w.level h.events) ↔ .abandon .braces ∉ h.events
  braced_of_calm : .raise ∉ h.events → Braced (laid w.level h.events)

theorem Plays.laysOut {w : Writer} {run : Writer × Ending} {h : History} (plays : Plays w run h)
    (sound : h.IsSound) :
    LaysOut w run h where
  ending := plays.ending
  level := plays.wrote.level
  lines unit := by
    simp only [plays.wrote.lines, List.map_append, List.map_map]
    exact congrArg _ (List.map_congr_left fun m _ => m.render_line unit)
  sound := sound
  braced_iff := sound.balanced.braced_iff w.level
  braced_of_calm calm := sound.balanced.braced w.level (sound.flows.not_abandoned rfl calm)

/-- Every run of every operation, and of operations in a row, lays out its history. -/
theorem runs_lay_out :
    (∀ (op : Op) (w : Writer), LaysOut w (op.run w) op.history) ∧
      ∀ (ops : List Op) (w : Writer), LaysOut w (runAll w ops) (allHistory ops) :=
  ⟨fun op w => (op.run_plays w).laysOut op.history_sound,
    fun ops w => (runAll_plays ops w).laysOut (allHistory_sound ops)⟩

/-- Catching what left a block ends without an exception, and the brace of that block stays open. -/
theorem caught_leaves_open :
    (runAll {} [.attempt [.block none [.raise]]]).2 = .done ∧
      (linesOf [.attempt [.block none [.raise]]]).map (·.render "    ") = ["\x7b"] ∧
      ¬ Braced (laid 0 (allHistory [.attempt [.block none [.raise]]]).events) :=
  ⟨rfl, rfl, fun braced => absurd braced.count_eq (by decide)⟩

end Shapewright.Layout
