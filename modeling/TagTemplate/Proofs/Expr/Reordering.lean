import TagTemplate.Proofs.Expr.Completion
import TagTemplate.Proofs.Expr.Steps
import TagTemplate.Proofs.OrderedMap

/-!
# The order of the universe

Names are looked up in the universe whatever the order of its entries. An expression sees the order
only where it reads the universe as a whole: by a root without steps.

- `Scope.Reordered`: scopes with the same entries in their universes, in any order;
- `Path.resolve_reordered`: **a path that is not the universe itself resolves to the same**;
- `Scanner.Told`: what the characters that are used up tell of the token that the scanner is in;
- `ReadsRoot`: an evaluation comes to a root without steps;
- `evaluate_reordered`: **an expression that does not read the universe as a whole has the same
  value or error**;
- `overlooks_of_notMem`: expressions that are seen not to read it by their characters.
-/

namespace TagTemplate

/-! ## Scopes -/

theorem OrderedMap.insertEntry_perm {α : Type} {es : List (String × α)}
    (h : (es.map Prod.fst).Nodup) (key : String) (value : α) :
    (insertEntry key value es).Perm ((key, value) :: es.filter fun entry => entry.1 ≠ key) := by
  induction es with
  | nil => exact .refl _
  | cons e es ih =>
    obtain ⟨k, v⟩ := e
    rw [List.map_cons, List.nodup_cons] at h
    by_cases hk : k = key
    · subst hk
      -- no other entry has the name
      have hothers : es.filter (fun entry => entry.1 ≠ k) = es := by
        refine List.filter_eq_self.2 fun entry hentry => decide_eq_true fun heq => h.1 ?_
        exact List.mem_map.2 ⟨entry, hentry, heq⟩
      rw [insertEntry, if_pos rfl, List.filter_cons_of_neg (by simp), hothers]
    · rw [insertEntry, if_neg hk, List.filter_cons_of_pos (by simpa using hk)]
      exact ((ih h.2).cons _).trans (.swap _ _ _)

/-- Scopes with the same layers over universes with the same entries, in any order. -/
structure Scope.Reordered (s s' : Scope) : Prop where
  layers : s.layers = s'.layers
  distinct : s.base.Distinct
  entries : s.base.entries.Perm s'.base.entries

namespace Scope.Reordered

variable {s s' : Scope}

theorem get? (h : s.Reordered s') (name : String) : s.base.get? name = s'.base.get? name :=
  OrderedMap.get?_perm h.distinct h.entries name

theorem push (h : s.Reordered s') (layer : Value) : (s.push layer).Reordered (s'.push layer) :=
  ⟨congrArg (layer :: ·) h.layers, h.distinct, h.entries⟩

theorem pop (h : s.Reordered s') : s.pop.2.Reordered s'.pop.2 := by
  obtain ⟨base, layers⟩ := s
  obtain ⟨base', layers'⟩ := s'
  obtain rfl : layers = layers' := h.layers
  cases layers with
  | nil => exact h
  | cons layer layers => exact ⟨rfl, h.distinct, h.entries⟩

/-- The order of the other entries does not matter to a name that is set. -/
theorem mount (h : s.Reordered s') (name : String) (value : Value) :
    (s.mount name value).Reordered (s'.mount name value) := by
  have hdistinct' : s'.base.Distinct := (h.entries.map Prod.fst).nodup_iff.1 h.distinct
  refine ⟨h.layers, OrderedMap.distinct_insert h.distinct name value, ?_⟩
  exact (OrderedMap.insertEntry_perm h.distinct name value).trans
    (((h.entries.filter _).cons _).trans (OrderedMap.insertEntry_perm hdistinct' name value).symm)

end Scope.Reordered

namespace Expr

open Text

/-! ## Paths -/

/-- The root by itself is the universe, with this many layers over it. -/
def Root.IsUniverse (layers : Nat) : Root → Prop
  | .absolute => True
  | .current => layers = 0
  | .parent => layers = 1
  | .scoped => False

/-- The universe is only asked for the entry under the first name. -/
theorem walk_universe {s s' : Scope} (h : s.Reordered s') (step : String) (steps : List String) :
    walk (some (.map s.base)) (step :: steps) = walk (some (.map s'.base)) (step :: steps) := by
  show walk (s.base.get? step) steps = walk (s'.base.get? step) steps
  rw [h.get?]

/-- A name that can be written is looked up layer by layer. -/
theorem lookup?_reordered {s s' : Scope} (h : s.Reordered s') {name : String}
    (hname : IsStep name.toList) : s.lookup? name = s'.lookup? name := by
  have hne : ∀ c cs, isNameChar c = false → name ≠ String.ofList (c :: cs) := by
    rintro c cs hc rfl
    rw [hname.2 c (by simp)] at hc
    cases hc
  have hslash : name ≠ "/" := hne '/' [] (by decide)
  have hdot : name ≠ "." := hne '.' [] (by decide)
  have hdots : name ≠ ".." := hne '.' ['.'] (by decide)
  rw [Scope.lookup?, Scope.lookup?, if_neg hslash, if_neg hdot, if_neg hdots, if_neg hslash,
    if_neg hdot, if_neg hdots, Scope.allLayers, Scope.allLayers, List.findSome?_append,
    List.findSome?_append, h.layers]
  have hbase : Value.layerMember? (.map s.base) name = Value.layerMember? (.map s'.base) name :=
    h.get? name
  simp [hbase]

/-- **A path that is not the universe itself resolves to the same**, whatever the order of the
universe's entries. -/
theorem Path.resolve_reordered {s s' : Scope} (h : s.Reordered s') {p : Path}
    (hbare : p.steps = [] → ¬ p.root.IsUniverse s.layers.length)
    (hnamed : p.root = .scoped → ∃ first rest, p.steps = first :: rest ∧ IsStep first.toList) :
    p.resolve s = p.resolve s' := by
  obtain ⟨root, steps⟩ := p
  obtain ⟨base, layers⟩ := s
  obtain ⟨base', layers'⟩ := s'
  obtain rfl : layers = layers' := h.layers
  -- the universe differs only as a whole, so that any step into it finds the same
  cases root with
  | absolute =>
    cases steps with
    | nil => exact absurd trivial (hbare rfl)
    | cons step steps => exact congrArg (·.getD .null) (walk_universe h step steps)
  | current =>
    cases layers with
    | cons layer layers => rfl
    | nil =>
      cases steps with
      | nil => exact absurd rfl (hbare rfl)
      | cons step steps => exact congrArg (·.getD .null) (walk_universe h step steps)
  | parent =>
    match layers with
    | [] => rfl
    | _ :: _ :: _ => rfl
    | [_] =>
      cases steps with
      | nil => exact absurd rfl (hbare rfl)
      | cons step steps => exact congrArg (·.getD .null) (walk_universe h step steps)
  | _ =>
    obtain ⟨first, rest, rfl, hfirst⟩ := hnamed rfl
    show (walk (Scope.lookup? _ first) rest).getD .null = (walk (Scope.lookup? _ first) rest).getD _
    rw [lookup?_reordered h hfirst]

/-! ## What the characters tell -/

/-- What the characters tell of a root that is come to. -/
def Root.Told (seen : List Char) : Root → Prop
  | .absolute => '/' ∈ seen
  | .current => '.' ∈ seen
  | .parent => 2 ≤ seen.count '.'
  | .scoped => True

/-- What the characters tell of a path that is come to. A scoped path starts with a name. -/
structure Path.Told (seen : List Char) (p : Path) : Prop where
  root : p.root.Told seen
  named : p.root = .scoped → ∃ first rest, p.steps = first :: rest ∧ IsStep first.toList

/-- What the characters tell of the token that is being read. -/
def Mode.Told (seen buffer : List Char) : Mode → Prop
  | .idle => buffer = []
  | .slash => buffer = []
  | .name => IsStep buffer
  | .dot => buffer = [] ∧ '.' ∈ seen
  | .dots => buffer = [] ∧ 2 ≤ seen.count '.'
  | .quoted _ _ => True
  | .numeral _ => True

theorem Root.Told.mono {seen : List Char} {root : Root} (h : root.Told seen) (more : List Char) :
    root.Told (seen ++ more) := by
  cases root with
  | absolute => exact List.mem_append_left more h
  | current => exact List.mem_append_left more h
  | parent =>
    show 2 ≤ (seen ++ more).count '.'
    rw [List.count_append]
    exact Nat.le_add_right_of_le h
  | _ => trivial

theorem Mode.Told.mono {seen buffer : List Char} {mode : Mode} (h : mode.Told seen buffer)
    (more : List Char) : mode.Told (seen ++ more) buffer := by
  cases mode with
  | dot =>
    have hroot : Root.Told seen .current := h.2
    exact ⟨h.1, hroot.mono more⟩
  | dots =>
    have hroot : Root.Told seen .parent := h.2
    exact ⟨h.1, hroot.mono more⟩
  | _ => exact h

namespace Scanner

/-- What the characters that are used up tell of the path that is being read. -/
def PathTold (seen : List Char) (s : Scanner) : Prop := ∀ p, s.path = some p → p.Told seen

/-- What the characters that are used up tell of the scanner behind them. -/
structure Told (seen : List Char) (s : Scanner) : Prop where
  token : s.mode.Told seen s.buffer
  path : s.PathTold seen

variable {env env' : Env} {s : Scanner} {seen : List Char}

theorem Told.mono (h : s.Told seen) (more : List Char) : s.Told (seen ++ more) :=
  ⟨h.token.mono more, fun p hp => ⟨(h.path p hp).root.mono more, (h.path p hp).named⟩⟩

/-- The scanner that there is after this, if any, is one that the characters tell of. -/
abbrev Keeps (seen : List Char) (x : Except Failure Scanner) : Prop :=
  Ensures (Told seen) (fun _ => True) x

/-- The path that there is after this, if any, is one that the characters tell of; the characters of
the token are as they were. -/
abbrev Extends (seen buffer : List Char) (x : Except Failure Scanner) : Prop :=
  Ensures (fun s' => s'.PathTold seen ∧ s'.buffer = buffer) (fun _ => True) x

theorem extends_beginPath {root : Root} (hroot : root.Told seen) (hne : root ≠ .scoped) :
    Extends seen s.buffer (s.beginPath root) := by
  refine .ite (fun _ => .ok ⟨?_, rfl⟩) fun _ => .error trivial
  rintro p ⟨⟩
  exact ⟨hroot, fun heq => absurd heq hne⟩

theorem extends_addStep (h : s.PathTold seen) {step : String} (hstep : IsStep step.toList) :
    Extends seen s.buffer (s.addStep step) := by
  unfold addStep
  split
  · rename_i path hpath
    refine .ok ⟨?_, rfl⟩
    rintro p ⟨⟩
    refine ⟨(h path hpath).root, fun hroot => ?_⟩
    obtain ⟨first, rest, hsteps, hfirst⟩ := (h path hpath).named hroot
    exact ⟨first, rest ++ [step], by rw [hsteps]; rfl, hfirst⟩
  · refine .ite (fun _ => .ok ⟨?_, rfl⟩) fun _ => .error trivial
    rintro p ⟨⟩
    exact ⟨trivial, fun _ => ⟨step, [], rfl, hstep⟩⟩

theorem told_finishPath (h : s.PathTold seen) (hbuffer : s.buffer = []) :
    Keeps seen (s.finishPath env) := by
  unfold finishPath
  split
  · exact .ok ⟨hbuffer, h⟩
  · cases s.held.pushOperand _ with
    | error e => exact .error trivial
    | ok held => exact .ok ⟨hbuffer, nofun⟩

/-- A token that is pushed leaves no characters behind. -/
theorem told_idle (h : s.PathTold seen) (held : Except Failure Stacks) :
    Keeps seen (held.map s.idle) := by
  cases held with
  | error e => exact .error trivial
  | ok held => exact .ok ⟨rfl, h⟩

/-- A slash behind the root or the name of a path. -/
theorem told_slash {x : Except Failure Scanner} {buffer : List Char} (h : Extends seen buffer x)
    (hbuffer : buffer = []) :
    Keeps seen (x.map (·.goto .slash)) :=
  h.map fun _ hs => ⟨hs.2.trans hbuffer, hs.1⟩

theorem told_finishName (h : s.PathTold seen) (hstep : IsStep s.buffer) :
    Keeps seen (s.finishName env) := by
  have hended : PathTold seen { s with mode := .idle, buffer := [] } := h
  have hname : IsStep (String.ofList s.buffer).toList := by rwa [String.toList_ofList]
  unfold finishName
  dsimp only
  split
  · exact told_idle hended _
  · exact (extends_addStep hended hname).bind fun _ hs => told_finishPath hs.1 hs.2

theorem told_finishNumeral (h : s.PathTold seen) : Keeps seen s.finishNumeral := by
  unfold finishNumeral
  split
  · exact told_idle h _
  · exact .error trivial

theorem told_finishRoot (hbuffer : s.buffer = []) {root : Root} (hroot : root.Told seen)
    (hne : root ≠ .scoped) : Keeps seen (s.finishRoot env root) :=
  (extends_beginPath hroot hne).bind fun _ hs => told_finishPath hs.1 (hs.2.trans hbuffer)

theorem told_onHeld (h : s.Told seen) (held : Except Failure Stacks) :
    Keeps seen (s.onHeld held) := by
  cases held with
  | error e => exact .error trivial
  | ok held => exact .ok ⟨h.token, h.path⟩

theorem told_signOrOperator (h : s.Told seen) (sign : Sign) (op : Binary) :
    Keeps seen (s.signOrOperator sign op) :=
  .ite (fun _ => .ok ⟨h.token, h.path⟩) fun _ => told_onHeld h _

/-- The first character of a name. -/
theorem isStep_keep {buffer : List Char} (hbuffer : buffer = []) {c : Char}
    (hc : isNameChar c = true) : IsStep (buffer ++ [c]) := by
  subst hbuffer
  exact ⟨List.cons_ne_nil _ _, List.forall_mem_singleton.2 hc⟩

theorem told_readIdle (h : s.Told seen) (hmode : s.mode = .idle) (c : Char) (position : Nat) :
    Keeps (seen ++ [c]) (s.readIdle env c position) := by
  have hbuffer : s.buffer = [] := by
    have htoken := h.token
    rwa [hmode] at htoken
  have hmore : Told (seen ++ [c]) s := h.mono [c]
  refine .ite (fun _ => .ok ⟨trivial, hmore.path⟩) fun _ => ?_
  refine .ite (fun _ => told_signOrOperator hmore _ _) fun _ => ?_
  refine .ite (fun _ => told_signOrOperator hmore _ _) fun _ => ?_
  refine .ite (fun _ => told_onHeld hmore _) fun _ => ?_
  refine .ite (fun hslash => .ite (fun _ => ?_) fun _ => told_onHeld hmore _) fun _ => ?_
  · exact told_slash (extends_beginPath (by simp [Root.Told, hslash]) nofun) hbuffer
  refine .ite (fun _ => told_onHeld hmore _) fun _ => ?_
  refine .ite (fun _ => told_onHeld hmore _) fun _ => ?_
  refine .ite (fun _ => told_onHeld hmore _) fun _ => ?_
  refine .ite (fun hdot => .ite (fun _ => .ok ⟨⟨hbuffer, ?_⟩, hmore.path⟩) fun _ => .error trivial)
    fun _ => ?_
  · simp [hdot]
  refine .ite (fun _ => .ok ⟨trivial, hmore.path⟩) fun _ => ?_
  refine .ite (fun hstart => .ok ⟨?_, hmore.path⟩) fun _ => ?_
  · exact isStep_keep hbuffer (isNameChar_of_isNameStart hstart)
  exact .ite (fun _ => .ok hmore) fun _ => .error trivial

theorem told_readQuoted (h : s.Told seen) {quote : Char} {escaped : Bool}
    (hmode : s.mode = .quoted quote escaped) (c : Char) :
    Keeps seen (s.readQuoted quote escaped c) := by
  refine .ite (fun _ => .ok ⟨trivial, h.path⟩) fun _ => ?_
  refine .ite (fun _ => .ok ⟨trivial, h.path⟩) fun _ => ?_
  refine .ite (fun _ => told_idle h.path _) fun _ => .ok ⟨?_, h.path⟩
  rw [show (s.keep c).mode = s.mode from rfl, hmode]
  trivial

/-- **A reading keeps what the characters tell.** -/
theorem told_read (env : Env) (h : s.Told seen) (c : Char) (position : Nat) :
    Ensures (fun r => r.2.Told (if r.1 then seen ++ [c] else seen)) (fun _ => True)
      (s.read env c position) := by
  -- a character is taken in, or it ends a token and is read once more
  have hused : ∀ {x : Except Failure Scanner}, Keeps (seen ++ [c]) x →
      Ensures (fun r => r.2.Told (if r.1 then seen ++ [c] else seen)) (fun _ => True)
        (x.map fun s => (true, s)) :=
    fun hx => hx.map fun _ hs => hs
  have hagain : ∀ {x : Except Failure Scanner}, Keeps seen x →
      Ensures (fun r => r.2.Told (if r.1 then seen ++ [c] else seen)) (fun _ => True)
        (x.map fun s => (false, s)) :=
    fun hx => hx.map fun _ hs => hs
  have hmore : Told (seen ++ [c]) s := h.mono [c]
  have htoken := h.token
  unfold read
  dsimp only
  cases hmode : s.mode with
  | idle => exact hused (told_readIdle h hmode c position)
  | quoted quote escaped => exact hused (told_readQuoted hmore hmode c)
  | name =>
    rw [hmode] at htoken
    have hname : IsStep s.buffer := htoken
    have hstep : IsStep (String.ofList s.buffer).toList := by rwa [String.toList_ofList]
    refine .ite (fun hc => hused (.ok ⟨?_, hmore.path⟩)) fun _ => ?_
    · rw [show (s.keep c).mode = s.mode from rfl, hmode]
      exact hname.append hc
    refine .ite (fun _ => hused (told_idle hmore.path _)) fun _ => ?_
    refine .ite (fun _ => hused ?_) fun _ => hagain (told_finishName h.path hname)
    refine told_slash (extends_addStep ?_ hstep) rfl
    exact hmore.path
  | numeral seenPoint =>
    refine .ite (fun _ => hused (.ok ⟨?_, hmore.path⟩)) fun _ => ?_
    · rw [show (s.keep c).mode = s.mode from rfl, hmode]
      trivial
    refine .ite (fun _ => .ite (fun _ => .error trivial) fun _ => ?_) fun _ => ?_
    · exact hused (.ok ⟨trivial, hmore.path⟩)
    · exact .ite (fun _ => .error trivial) fun _ => hagain (told_finishNumeral h.path)
  | dot =>
    rw [hmode] at htoken
    obtain ⟨hbuffer, hdot⟩ : s.buffer = [] ∧ '.' ∈ seen := htoken
    refine .ite (fun hc => hused (.ok ⟨⟨hbuffer, ?_⟩, hmore.path⟩)) fun _ => ?_
    · have hone := List.count_pos_iff.2 hdot
      rw [hc, List.count_append, List.count_singleton_self]
      omega
    refine .ite (fun _ => hused (told_slash (extends_beginPath ?_ nofun) hbuffer)) fun _ => ?_
    · exact List.mem_append_left _ hdot
    refine .ite (fun _ => hused (.ok ⟨trivial, hmore.path⟩)) fun _ => ?_
    exact hagain (told_finishRoot hbuffer hdot nofun)
  | dots =>
    rw [hmode] at htoken
    obtain ⟨hbuffer, hdots⟩ : s.buffer = [] ∧ Root.Told seen .parent := htoken
    refine .ite (fun _ => hused (told_slash (extends_beginPath ?_ nofun) hbuffer)) fun _ => ?_
    · exact hdots.mono _
    · exact hagain (told_finishRoot hbuffer hdots nofun)
  | slash =>
    rw [hmode] at htoken
    have hbuffer : s.buffer = [] := htoken
    refine .ite (fun hc => hused (.ok ⟨isStep_keep hbuffer hc, hmore.path⟩)) fun _ => ?_
    exact hagain (told_finishPath h.path hbuffer)

end Scanner

/-- What the characters in front of a place tell of it. -/
theorem Reached.told {env : Env} {text : List Char} {p : Place} (h : Reached env text p) :
    ∃ seen, text = seen ++ p.rest ∧ p.scanner.Told seen := by
  induction h with
  | refl => exact ⟨[], rfl, rfl, nofun⟩
  | tail _ hstep ih =>
    obtain ⟨seen, htext, htold⟩ := ih
    cases hstep with
    | @used s s' c cs position reads hread =>
      have hreads := Scanner.told_read env htold c position
      rw [hread] at hreads
      exact ⟨seen ++ [c], by rw [htext, List.append_assoc]; rfl, hreads.good_of_ok⟩
    | @again s s' c cs position reads hread =>
      have hreads := Scanner.told_read env htold c position
      rw [hread] at hreads
      exact ⟨seen, htext, hreads.good_of_ok⟩

/-! ## Two evaluations beside each other -/

/-- The root that the token is, if it ends here: a path without steps. -/
def Scanner.bareRoot? (s : Scanner) : Option Root :=
  match s.mode with
  | .dot => some .current
  | .dots => some .parent
  | .slash => s.path.bind fun p => if p.steps = [] then some p.root else none
  | _ => none

/-- An evaluation comes to a root without steps. -/
def ReadsRoot (env : Env) (text : List Char) (root : Root) : Prop :=
  ∃ p, Reached env text p ∧ Scanner.EndsAt p.scanner.mode p.rest ∧
    p.scanner.bareRoot? = some root

/-- Two evaluations of which one has the universe in another order. Functions that are called do not
show the order. -/
structure Env.Reordered (env env' : Env) : Prop where
  scope : env.scope.Reordered env'.scope
  calls : ∀ name arguments,
    env.functions.call ⟨name, env.scope, env.iteration⟩ arguments =
      env'.functions.call ⟨name, env'.scope, env'.iteration⟩ arguments

namespace Scanner

variable {env env' : Env} {s : Scanner} {seen : List Char}

theorem close_reordered (h : env.Reordered env') (held : Stacks) :
    held.close env = held.close env' := by
  unfold Stacks.close
  simp only [h.calls]

theorem finishPath_reordered
    (h : ∀ p, s.path = some p → p.resolve env.scope = p.resolve env'.scope) :
    s.finishPath env = s.finishPath env' := by
  unfold finishPath
  split
  · rfl
  · rename_i path hpath
    rw [h path hpath]

theorem finishRoot_reordered {root : Root}
    (h : Path.resolve env.scope ⟨root, []⟩ = Path.resolve env'.scope ⟨root, []⟩) :
    s.finishRoot env root = s.finishRoot env' root := by
  unfold finishRoot beginPath
  split
  · have hbegun : finishPath env { s with path := some ⟨root, []⟩ } =
        finishPath env' { s with path := some ⟨root, []⟩ } := by
      refine finishPath_reordered ?_
      rintro p ⟨⟩
      exact h
    exact hbegun
  · rfl

theorem steps_of_addStep {s' : Scanner} {step : String} (h : s.addStep step = .ok s') {p : Path}
    (hp : s'.path = some p) : p.steps ≠ [] := by
  unfold addStep at h
  split at h
  · cases h
    cases hp
    simp
  · split at h <;> cases h
    cases hp
    simp

/-- A name is a keyword or a step, and never the universe itself. -/
theorem finishName_reordered (h : env.Reordered env') (hpath : s.PathTold seen)
    (hstep : IsStep s.buffer) : s.finishName env = s.finishName env' := by
  have hname : IsStep (String.ofList s.buffer).toList := by rwa [String.toList_ofList]
  have hended : PathTold seen { s with mode := .idle, buffer := [] } := hpath
  unfold finishName
  dsimp only
  split
  · rfl
  · have htold := extends_addStep hended hname
    cases hadd : addStep { s with mode := .idle, buffer := [] } (String.ofList s.buffer) with
    | error e => rfl
    | ok s' =>
      rw [hadd] at htold
      refine finishPath_reordered fun p hp => Path.resolve_reordered h.scope ?_ ?_
      · exact fun hnil => absurd hnil (steps_of_addStep hadd hp)
      · exact (htold.good_of_ok.1 p hp).named

/-- A path that ends behind its last slash is the universe itself only if it is a root that is. -/
theorem finishSlash_reordered (h : env.Reordered env') (hpath : s.PathTold seen)
    (hroot : ∀ p, s.path = some p → p.steps = [] →
      ¬ p.root.IsUniverse env.scope.layers.length) : s.finishPath env = s.finishPath env' :=
  finishPath_reordered fun p hp =>
    Path.resolve_reordered h.scope (hroot p hp) (hpath p hp).named

theorem resolve_root (h : env.Reordered env') {root : Root} (hne : root ≠ .scoped)
    (hroot : ¬ root.IsUniverse env.scope.layers.length) :
    Path.resolve env.scope ⟨root, []⟩ = Path.resolve env'.scope ⟨root, []⟩ :=
  Path.resolve_reordered h.scope (fun _ => hroot) fun heq => absurd heq hne

theorem bareRoot?_dot (hmode : s.mode = .dot) : s.bareRoot? = some .current := by
  rw [bareRoot?, hmode]

theorem bareRoot?_dots (hmode : s.mode = .dots) : s.bareRoot? = some .parent := by
  rw [bareRoot?, hmode]

/-- No root that the token is, if it ends here, is the universe. -/
def Overlooks (layers : Nat) (s : Scanner) : Prop :=
  ∀ root, s.bareRoot? = some root → ¬ root.IsUniverse layers

theorem Overlooks.path {layers : Nat} (h : s.Overlooks layers) (hmode : s.mode = .slash) :
    ∀ p, s.path = some p → p.steps = [] → ¬ p.root.IsUniverse layers := by
  intro p hp hnil
  refine h p.root ?_
  rw [bareRoot?, hmode]
  simp [hp, hnil]

/-- **A reading does not depend on the order of the universe**, unless it ends a root that is the
universe. -/
theorem read_reordered (h : env.Reordered env') (htold : s.Told seen) {c : Char} {cs : List Char}
    (hroot : EndsAt s.mode (c :: cs) → s.Overlooks env.scope.layers.length) (position : Nat) :
    s.read env c position = s.read env' c position := by
  have htoken := htold.token
  unfold read
  dsimp only
  -- a path is looked up when its token ends, which all other modes leave alone
  cases hmode : s.mode with
  | idle =>
    unfold readIdle
    simp only [close_reordered h]
  | quoted quote escaped => rfl
  | name =>
    rw [hmode] at htoken
    rw [finishName_reordered h htold.path htoken]
  | numeral seenPoint => rfl
  | dot =>
    rw [hmode] at hroot
    refine if_ctx_congr Iff.rfl (fun _ => rfl) fun hdot => ?_
    refine if_ctx_congr Iff.rfl (fun _ => rfl) fun hslash => ?_
    refine if_ctx_congr Iff.rfl (fun _ => rfl) fun hdigit => ?_
    have hlooks := hroot ⟨hdot, hslash, Bool.eq_false_iff.2 hdigit⟩ .current (bareRoot?_dot hmode)
    rw [finishRoot_reordered (resolve_root h (by simp) hlooks)]
  | dots =>
    rw [hmode] at hroot
    refine if_ctx_congr Iff.rfl (fun _ => rfl) fun hslash => ?_
    have hlooks := hroot hslash .parent (bareRoot?_dots hmode)
    rw [finishRoot_reordered (resolve_root h (by simp) hlooks)]
  | slash =>
    rw [hmode] at hroot
    refine if_ctx_congr Iff.rfl (fun _ => rfl) fun hname => ?_
    have hlooks := hroot (Bool.eq_false_iff.2 hname)
    rw [finishSlash_reordered h htold.path (hlooks.path hmode)]

/-- **The end of a text does not depend on it either**, unless it ends such a root. -/
theorem finishToken_reordered (h : env.Reordered env') (htold : s.Told seen)
    (hroot : s.Overlooks env.scope.layers.length) : s.finishToken env = s.finishToken env' := by
  have htoken := htold.token
  unfold finishToken
  cases hmode : s.mode with
  | idle => rfl
  | quoted quote escaped => rfl
  | name =>
    rw [hmode] at htoken
    exact finishName_reordered h htold.path htoken
  | numeral seenPoint => rfl
  | dot =>
    exact finishRoot_reordered (resolve_root h (by simp) (hroot .current (bareRoot?_dot hmode)))
  | dots =>
    exact finishRoot_reordered (resolve_root h (by simp) (hroot .parent (bareRoot?_dots hmode)))
  | slash => exact finishSlash_reordered h htold.path (hroot.path hmode)

end Scanner

section

variable {env env' : Env} {text : List Char}

/-- No root that the evaluation comes to is the universe. -/
def Overlooks (env : Env) (text : List Char) : Prop :=
  ∀ root, ReadsRoot env text root → ¬ root.IsUniverse env.scope.layers.length

theorem Overlooks.place (h : Overlooks env text) {p : Place} (hreached : Reached env text p)
    (hends : Scanner.EndsAt p.scanner.mode p.rest) :
    p.scanner.Overlooks env.scope.layers.length :=
  fun root hbare => h root ⟨p, hreached, hends, hbare⟩

/-- **All readings of an expression that does not read the universe as a whole are alike.** -/
theorem Reached.feedAll_reordered (h : env.Reordered env') (hlooks : Overlooks env text)
    {s : Scanner} {rest : List Char} {position : Nat}
    (hreached : Reached env text ⟨s, rest, position, 0⟩) :
    s.feedAll env position rest = s.feedAll env' position rest := by
  induction rest generalizing s position with
  | nil => rfl
  | cons c cs ih =>
    obtain ⟨seen, -, htold⟩ := hreached.told
    have hread' := Scanner.read_reordered h htold (hlooks.place hreached) position
    show ((s.feed env c position).bind fun s => s.feedAll env (position + 1) cs) =
      (s.feed env' c position).bind fun s => s.feedAll env' (position + 1) cs
    rw [Scanner.feed, Scanner.feed, ← hread']
    cases hread : s.read env c position with
    | error e => rfl
    | ok r =>
      obtain ⟨used, s'⟩ := r
      cases used with
      | true => exact ih (hreached.tail (.used hread))
      | false =>
        -- the token has ended, and the character is read once more between tokens
        have hagain : Reached env text ⟨s', c :: cs, position, 1⟩ := hreached.tail (.again hread)
        obtain ⟨seen', -, htold'⟩ := hagain.told
        have hsecond' := Scanner.read_reordered h htold' (hlooks.place hagain) position
        have hidle := Scanner.read_idle env (hagain.sound.idle rfl) c position
        show (((·.2) <$> s'.read env c position).bind fun s => s.feedAll env (position + 1) cs) =
          ((·.2) <$> s'.read env' c position).bind fun s => s.feedAll env' (position + 1) cs
        rw [← hsecond']
        cases hsecond : s'.readIdle env c position with
        | error e =>
          rw [hsecond] at hidle
          rw [hidle]
          rfl
        | ok s'' =>
          rw [hsecond] at hidle
          rw [hidle]
          exact ih (hagain.tail (.used hidle))

/-- **An expression that does not read the universe as a whole has the same value or error**,
whatever the order of the universe's entries. -/
theorem evaluate_reordered (h : env.Reordered env') {expression : String}
    (hlooks : Overlooks env expression.toList) :
    evaluate env expression = evaluate env' expression := by
  have hstart : Reached env expression.toList ⟨.initial, expression.toList, 0, 0⟩ := .refl
  have hend := hstart.readsToEnd
  rw [evaluate, evaluate, ← hstart.feedAll_reordered h hlooks]
  cases hfeed : Scanner.initial.feedAll env 0 expression.toList with
  | error e => rfl
  | ok s =>
    rw [hfeed] at hend
    obtain ⟨position, hreached⟩ := hend.good_of_ok
    obtain ⟨seen, -, htold⟩ := hreached.told
    have hfinish := Scanner.finishToken_reordered h htold
      (hlooks.place hreached (by cases s.mode <;> trivial))
    show (Scanner.finish env s).mapError _ = (Scanner.finish env' s).mapError _
    rw [Scanner.finish, Scanner.finish, hfinish]

/-- Every root that an evaluation comes to stands in the text. -/
theorem ReadsRoot.told {root : Root} (h : ReadsRoot env text root) :
    root.Told text ∧ root ≠ .scoped := by
  obtain ⟨⟨s, rest, position, reads⟩, hreached, -, hbare⟩ := h
  obtain ⟨seen, htext, htold⟩ := hreached.told
  obtain ⟨htoken, hpath⟩ := htold
  have hseen : root.Told seen ∧ root ≠ .scoped := by
    unfold Scanner.bareRoot? at hbare
    dsimp only at hbare htoken hpath
    split at hbare
    · rename_i hmode
      rw [hmode] at htoken
      cases hbare
      exact ⟨htoken.2, by simp⟩
    · rename_i hmode
      rw [hmode] at htoken
      cases hbare
      exact ⟨htoken.2, by simp⟩
    · obtain ⟨p, hp, hroot⟩ := Option.bind_eq_some_iff.1 hbare
      split at hroot
      · rename_i hnil
        cases hroot
        refine ⟨(hpath p hp).root, fun hscoped => ?_⟩
        obtain ⟨first, others, hsteps, -⟩ := (hpath p hp).named hscoped
        rw [hsteps] at hnil
        cases hnil
      · cases hroot
    · cases hbare
  dsimp only at htext
  rw [htext]
  exact ⟨hseen.1.mono rest, hseen.2⟩

/-- **Expressions that are seen not to read the universe as a whole**: without a slash, without a
point where nothing is above the universe, and without two of them where one layer is. -/
theorem overlooks_of_notMem (hslash : '/' ∉ text)
    (hcurrent : '.' ∈ text → env.scope.layers.length ≠ 0)
    (hparent : 2 ≤ text.count '.' → env.scope.layers.length ≠ 1) : Overlooks env text := by
  intro root hreads huniverse
  obtain ⟨htold, hne⟩ := hreads.told
  cases root with
  | absolute => exact hslash htold
  | current => exact hcurrent htold huniverse
  | parent => exact hparent htold huniverse
  | _ => exact hne rfl

end

end Expr

end TagTemplate
