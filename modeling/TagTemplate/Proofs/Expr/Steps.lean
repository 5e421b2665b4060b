import TagTemplate.Proofs.Expr.Balance

/-!
# Expressions, one reading at a time

An expression is read character by character, and each character until it is used up. The stacks are
followed through all of this: from one reading to the next one, and within a reading from one
operator that is applied to the next one.

- `Place`, `Step`, `Reached`: where the reading of an expression can stand;
- `reaches_feedAll`: an evaluation goes through such places, and ends at one of them;
- `balanced_read`: **one reading keeps the stacks balanced**;
- `Reached.balanced`, `Reached.reads_le`: so does every number of them, and no character is read a
  third time;
- `Occurs`: the stacks that there are in the course of an evaluation;
- `stacks_fit`: **the stacks fit together at every moment of every evaluation**.
-/

namespace TagTemplate.Expr

open Relation

variable {env : Env}

/-! ## Places -/

/-- Where the reading of an expression stands. -/
structure Place where
  scanner : Scanner
  /-- The characters that are not used up. -/
  rest : List Char
  /-- The position of the first of them. -/
  position : Nat
  /-- How often this character has been read without being used up. -/
  reads : Nat

/-- A character is read: it is used up, or it is read again. -/
inductive Step (env : Env) : Place → Place → Prop
  | used {s s' : Scanner} {c : Char} {cs : List Char} {position reads : Nat} :
      s.read env c position = .ok (true, s') →
      Step env ⟨s, c :: cs, position, reads⟩ ⟨s', cs, position + 1, 0⟩
  | again {s s' : Scanner} {c : Char} {cs : List Char} {position reads : Nat} :
      s.read env c position = .ok (false, s') →
      Step env ⟨s, c :: cs, position, reads⟩ ⟨s', c :: cs, position, reads + 1⟩

/-- The reading of the text comes to this place. -/
def Reached (env : Env) (text : List Char) : Place → Prop :=
  ReflTransGen (Step env) ⟨.initial, text, 0, 0⟩

namespace Scanner

/-- What the scanner holds is balanced. -/
abbrev IsBalanced (s : Scanner) : Prop := s.held.Balanced

variable {s : Scanner}

/-! ## One reading -/

theorem balanced_pushed (h : s.IsBalanced) (v : Value) (next : Stacks → Scanner)
    (hnext : ∀ held, (next held).held = held) :
    Passes IsBalanced ((s.held.pushOperand v).map next) :=
  (Stacks.balanced_pushOperand h v).map fun held hheld => by
    rw [IsBalanced, hnext]
    exact hheld

theorem balanced_beginPath (h : s.IsBalanced) (root : Root) :
    Passes IsBalanced (s.beginPath root) :=
  .ite (fun _ => .ok h) fun _ => Stacks.passes_stop id

theorem balanced_addStep (h : s.IsBalanced) (step : String) :
    Passes IsBalanced (s.addStep step) := by
  unfold addStep
  split
  · exact .ok h
  · exact .ite (fun _ => .ok h) fun _ => Stacks.passes_stop id

theorem balanced_finishPath (h : s.IsBalanced) : Passes IsBalanced (s.finishPath env) := by
  unfold finishPath
  split
  · exact .ok h
  · exact balanced_pushed h _ _ fun _ => rfl

theorem balanced_finishName (h : s.IsBalanced) : Passes IsBalanced (s.finishName env) := by
  unfold finishName
  dsimp only
  split
  · exact balanced_pushed h _ _ fun _ => rfl
  · refine Ensures.bind (balanced_addStep ?_ _) fun _ hadded => balanced_finishPath hadded
    exact h

theorem balanced_finishNumeral (h : s.IsBalanced) : Passes IsBalanced s.finishNumeral := by
  unfold finishNumeral
  split
  · exact balanced_pushed h _ _ fun _ => rfl
  · exact Stacks.passes_stop id

theorem balanced_finishRoot (h : s.IsBalanced) (root : Root) :
    Passes IsBalanced (s.finishRoot env root) :=
  (balanced_beginPath h root).bind fun _ hbegun => balanced_finishPath hbegun

theorem balanced_finishToken (h : s.IsBalanced) : Passes IsBalanced (s.finishToken env) := by
  unfold finishToken
  split
  · exact .ok h
  · exact .error id
  · exact balanced_finishName h
  · exact balanced_finishNumeral h
  · exact balanced_finishRoot h _
  · exact balanced_finishRoot h _
  · exact balanced_finishPath h

theorem balanced_onHeld {held : Except Failure Stacks} (h : Passes Stacks.Balanced held) :
    Passes IsBalanced (s.onHeld held) :=
  h.map fun _ hheld => hheld

/-- A sign comes where an operand is expected, and an operator where none is. -/
theorem balanced_signOrOperator (h : s.IsBalanced) (sign : Sign) (op : Binary) :
    Passes IsBalanced (s.signOrOperator sign op) :=
  .ite (fun _ => .ok (Stacks.balanced_pushSign h sign)) fun _ =>
    balanced_onHeld (Stacks.balanced_pushBinary h op)

theorem balanced_readIdle (h : s.IsBalanced) (c : Char) (position : Nat) :
    Passes IsBalanced (s.readIdle env c position) := by
  have hbinary : ∀ op, Passes IsBalanced (s.onHeld (s.held.pushBinary op)) :=
    fun op => balanced_onHeld (Stacks.balanced_pushBinary h op)
  refine .ite (fun _ => .ok h) fun _ => ?_
  refine .ite (fun _ => balanced_signOrOperator h _ _) fun _ => ?_
  refine .ite (fun _ => balanced_signOrOperator h _ _) fun _ => ?_
  refine .ite (fun _ => hbinary _) fun _ => ?_
  refine .ite (fun _ => .ite (fun _ => ?_) fun _ => hbinary _) fun _ => ?_
  · exact (balanced_beginPath h _).map fun _ hbegun => hbegun
  refine .ite (fun _ => balanced_onHeld (Stacks.balanced_openGroup h)) fun _ => ?_
  refine .ite (fun _ => balanced_onHeld (Stacks.balanced_close h)) fun _ => ?_
  refine .ite (fun _ => balanced_onHeld (Stacks.balanced_comma h)) fun _ => ?_
  refine .ite (fun _ => .ite (fun _ => .ok h) fun _ => .error id) fun _ => ?_
  refine .ite (fun _ => .ok h) fun _ => .ite (fun _ => .ok h) fun _ => ?_
  exact .ite (fun _ => .ok h) fun _ => .error id

theorem balanced_readQuoted (h : s.IsBalanced) (quote : Char) (escaped : Bool) (c : Char) :
    Passes IsBalanced (s.readQuoted quote escaped c) := by
  refine .ite (fun _ => .ok h) fun _ => .ite (fun _ => .ok h) fun _ => ?_
  exact .ite (fun _ => balanced_pushed h _ _ fun _ => rfl) fun _ => .ok h

/-- What is known after a reading: the stacks are balanced, and a character that is not used up has
ended a token. -/
def ReadsOn (r : Bool × Scanner) : Prop := r.2.IsBalanced ∧ (r.1 = false → r.2.mode = .idle)

/-- **One reading keeps the stacks balanced**, and leads between tokens if the character is not used
up. -/
theorem balanced_read (h : s.IsBalanced) (c : Char) (position : Nat) :
    Passes ReadsOn (s.read env c position) := by
  have hused : ∀ {result : Except Failure Scanner}, Passes IsBalanced result →
      Passes ReadsOn (result.map fun s => (true, s)) :=
    fun hresult => hresult.map fun _ hs => ⟨hs, nofun⟩
  -- a token that ends leaves the scanner between tokens
  have hagain : ∀ {result : Except Failure Scanner}, Passes IsBalanced result →
      (∀ s', result = .ok s' → s'.mode = .idle) →
      Passes ReadsOn (result.map fun s => (false, s)) :=
    fun hresult hmode => (hresult.and hmode).map fun _ hs => ⟨hs.1, fun _ => hs.2⟩
  have hslash : ∀ {result : Except Failure Scanner}, Passes IsBalanced result →
      Passes ReadsOn ((result.map (·.goto .slash)).map fun s => (true, s)) :=
    fun hresult => hused (hresult.map fun _ hs => hs)
  unfold read
  dsimp only
  cases s.mode with
  | idle => exact hused (balanced_readIdle h c position)
  | quoted quote escaped => exact hused (balanced_readQuoted h quote escaped c)
  | name =>
    refine .ite (fun _ => hused (.ok h)) fun _ => .ite (fun _ => hused ?_) fun _ => ?_
    · exact (Stacks.balanced_openCall h _).map fun _ hheld => hheld
    · refine .ite (fun _ => hslash (balanced_addStep ?_ _)) fun _ => ?_
      · exact h
      · exact hagain (balanced_finishName h) fun _ => mode_of_finishName
  | numeral seenPoint =>
    refine .ite (fun _ => hused (.ok h)) fun _ => .ite (fun _ => ?_) fun _ => ?_
    · exact .ite (fun _ => .error id) fun _ => hused (.ok h)
    · refine .ite (fun _ => .error id) fun _ => ?_
      exact hagain (balanced_finishNumeral h) fun _ => mode_of_finishNumeral
  | dot =>
    refine .ite (fun _ => hused (.ok h)) fun _ => ?_
    refine .ite (fun _ => hslash (balanced_beginPath h _)) fun _ => ?_
    refine .ite (fun _ => hused (.ok h)) fun _ => ?_
    exact hagain (balanced_finishRoot h _) fun _ => mode_of_finishRoot
  | dots =>
    refine .ite (fun _ => hslash (balanced_beginPath h _)) fun _ => ?_
    exact hagain (balanced_finishRoot h _) fun _ => mode_of_finishRoot
  | slash =>
    refine .ite (fun _ => hused (.ok h)) fun _ => ?_
    exact hagain (balanced_finishPath h) fun _ => mode_of_finishPath

end Scanner

/-! ## All readings -/

/-- What is known of a place: the stacks are balanced, and a character that has been read before is
read between tokens. -/
structure Place.Sound (p : Place) : Prop where
  balanced : p.scanner.IsBalanced
  reads_le : p.reads ≤ 1
  idle : p.reads = 1 → p.scanner.mode = .idle

theorem Place.Sound.step {p p' : Place} (h : p.Sound) (hstep : Step env p p') : p'.Sound := by
  cases hstep with
  | @used s s' c cs position reads hread =>
    have hreads : Passes Scanner.ReadsOn (s.read env c position) :=
      Scanner.balanced_read h.balanced c position
    rw [hread] at hreads
    exact ⟨hreads.good_of_ok.1, Nat.zero_le 1, nofun⟩
  | @again s s' c cs position reads hread =>
    have hreads : Passes Scanner.ReadsOn (s.read env c position) :=
      Scanner.balanced_read h.balanced c position
    rw [hread] at hreads
    obtain ⟨hbalanced, hidle⟩ := hreads.good_of_ok
    -- between tokens the character would have been used up
    have hzero : reads = 0 := by
      by_contra hne
      have hle : reads ≤ 1 := h.reads_le
      have hmode : s.mode = .idle := h.idle (show reads = 1 by omega)
      rw [Scanner.read_idle env hmode] at hread
      obtain ⟨_, -, heq⟩ := map_eq_ok hread
      cases heq
    subst hzero
    exact ⟨hbalanced, Nat.le_refl 1, fun _ => hidle rfl⟩

theorem Reached.sound {text : List Char} {p : Place} (h : Reached env text p) : p.Sound := by
  induction h with
  | refl => exact ⟨.initial, Nat.zero_le 1, nofun⟩
  | tail _ hstep ih => exact ih.step hstep

/-- A result of reading on from a place that is reached: the scanner behind the last character, or
the failure of a reading that is come to. -/
abbrev ReadsToEnd (env : Env) (text : List Char) (x : Except Failure Scanner) : Prop :=
  Ensures (fun s => ∃ position, Reached env text ⟨s, [], position, 0⟩)
    (fun e => ∃ (p : Place) (c : Char) (cs : List Char), Reached env text p ∧ p.rest = c :: cs ∧
      p.scanner.read env c p.position = .error e) x

/-- **An evaluation goes from one reading to the next one.** -/
theorem Reached.readsToEnd {text rest : List Char} {s : Scanner} {position : Nat}
    (h : Reached env text ⟨s, rest, position, 0⟩) :
    ReadsToEnd env text (s.feedAll env position rest) := by
  induction rest generalizing s position with
  | nil => exact .ok ⟨position, h⟩
  | cons c cs ih =>
    show ReadsToEnd env text
      ((s.feed env c position).bind fun s => s.feedAll env (position + 1) cs)
    rw [Scanner.feed]
    cases hread : s.read env c position with
    | error e => exact .error ⟨_, c, cs, h, rfl, hread⟩
    | ok r =>
      obtain ⟨used, s'⟩ := r
      cases used with
      | true => exact ih (h.tail (.used hread))
      | false =>
        -- the second reading is one between tokens, which uses the character up
        have hagain : Reached env text ⟨s', c :: cs, position, 1⟩ := h.tail (.again hread)
        have hidle := Scanner.read_idle env (hagain.sound.idle rfl) c position
        show ReadsToEnd env text
          (((·.2) <$> s'.read env c position).bind fun s => s.feedAll env (position + 1) cs)
        cases hsecond : s'.readIdle env c position with
        | error e =>
          rw [hsecond] at hidle
          rw [hidle]
          exact .error ⟨_, c, cs, hagain, rfl, hidle⟩
        | ok s'' =>
          rw [hsecond] at hidle
          rw [hidle]
          exact ih (hagain.tail (.used hidle))

/-! ## All moments -/

/-- The stacks that there are in the course of an evaluation: those between two readings, those at
the end of the text, and those between two operators that are applied. -/
inductive Occurs (env : Env) (text : List Char) : Stacks → Prop
  | held {p : Place} : Reached env text p → Occurs env text p.scanner.held
  | ended {p : Place} {s : Scanner} : Reached env text p → p.rest = [] →
      p.scanner.finishToken env = .ok s → Occurs env text s.held
  | applied {s s' : Stacks} : Occurs env text s → s.Applies s' → Occurs env text s'

theorem balanced_ended {text : List Char} {p : Place} {s : Scanner} (h : Reached env text p)
    (hended : p.scanner.finishToken env = .ok s) : s.IsBalanced := by
  have hfinish : Passes Scanner.IsBalanced (p.scanner.finishToken env) :=
    Scanner.balanced_finishToken h.sound.balanced
  rw [hended] at hfinish
  exact hfinish.good_of_ok

theorem Occurs.balanced {text : List Char} {s : Stacks} (h : Occurs env text s) : s.Balanced := by
  induction h with
  | held hreached => exact hreached.sound.balanced
  | ended hreached _ hended => exact balanced_ended hreached hended
  | applied _ happly ih => exact ih.applies happly

theorem Occurs.applies {text : List Char} {s s' : Stacks} (h : Occurs env text s)
    (happlied : ReflTransGen Stacks.Applies s s') : Occurs env text s' := by
  induction happlied with
  | refl => exact h
  | tail _ happly ih => exact ih.applied happly

/-- The stacks behind a reduction occur as well. -/
theorem Occurs.reduced {text : List Char} {s : Stacks} (h : Occurs env text s)
    (hexpecting : s.expecting = false) {entries : List Entry} {operands : List Value}
    (hreduce : reduceGroup s.operators s.operands = .ok (entries, operands)) :
    Occurs env text ⟨entries, operands, false⟩ := by
  obtain ⟨operators, held, expecting⟩ := s
  obtain rfl : expecting = false := hexpecting
  have hreduces := reduces_reduceGroup operators held
  rw [show reduceGroup operators held = .ok (entries, operands) from hreduce] at hreduces
  exact h.applies hreduces.good_of_ok

/-- What an evaluation fails with is no failure of stacks that do not fit together. -/
theorem passes_run (env : Env) (text : List Char) :
    Passes (fun _ => True) (Scanner.run env (Scanner.between .initial) 0 text) := by
  have hstart : Reached env text ⟨.initial, text, 0, 0⟩ := .refl
  refine Ensures.bind (hstart.readsToEnd.imp (fun _ => id) ?_) ?_
  · rintro e ⟨p, c, cs, hreached, -, hread⟩
    have hreads : Passes Scanner.ReadsOn (p.scanner.read env c p.position) :=
      Scanner.balanced_read hreached.sound.balanced c p.position
    rw [hread] at hreads
    exact hreads.kind_of_error
  · rintro s ⟨position, hreached⟩
    exact (Scanner.balanced_finishToken hreached.sound.balanced).bind
      fun _ hended => Stacks.passes_finish hended

/-- The stacks of an evaluation fit together at every moment. -/
structure StacksFit (env : Env) (expression : String) : Prop where
  /-- The operands reach up to the base of every open call. -/
  base_le : ∀ s, Occurs env expression.toList s → ∀ name commas base,
    .call name commas base ∈ s.operators → base ≤ s.operands.length
  /-- An operator that is applied has its operands. -/
  supplied : ∀ op entries operands,
    Occurs env expression.toList ⟨.operator op :: entries, operands, false⟩ → Supplied op operands
  /-- In front of an argument, a call has an operand for each comma, so it has neither if nothing is
  in its parentheses. -/
  opened : ∀ name commas base entries operands,
    Occurs env expression.toList ⟨.call name commas base :: entries, operands, true⟩ →
      operands.length - base = commas
  /-- With the operators of its last argument reduced, a call has one more operand than commas. -/
  closed : ∀ s, Occurs env expression.toList s → s.expecting = false →
    ∀ name commas base entries operands,
      reduceGroup s.operators s.operands = .ok (.call name commas base :: entries, operands) →
        base ≤ operands.length ∧ operands.length - base = commas + 1
  /-- Behind the last reduction at the end there is one operand, and no operator. -/
  single : ∀ (p : Place) (s : Scanner), Reached env expression.toList p → p.rest = [] →
    p.scanner.finishToken env = .ok s → s.held.expecting = false →
    s.held.operators.any Stacks.isOpen = false → ∀ entries operands,
    reduceGroup s.held.operators s.held.operands = .ok (entries, operands) →
      entries = [] ∧ ∃ v, operands = [v]
  /-- No operator misses an operand, and no list of arguments is malformed. -/
  fails : ∀ e, evaluate env expression = .error e →
    ∃ f : Failure, ¬ f.IsMisfit ∧ e = f.error expression
  /-- A character that is not used up by its first reading is used up by the second one. -/
  reads_le : ∀ p, Reached env expression.toList p → p.reads ≤ 1

/-- **The stacks fit together at every moment of every evaluation.** -/
theorem stacks_fit (env : Env) (expression : String) : StacksFit env expression := by
  constructor
  · intro s hs name commas base hmem
    exact hs.balanced.base_le hmem
  · intro op entries operands hs
    exact hs.balanced.supplied
  · intro name commas base entries operands hs
    have hcalled : operands.length = base + commas := hs.balanced.called
    omega
  · intro s hs hexpecting name commas base entries operands hreduce
    have hcalled : operands.length = base + commas + 1 :=
      (hs.reduced hexpecting hreduce).balanced.called
    constructor <;> omega
  · intro p s hreached _ hended hexpecting hopen entries operands hreduce
    exact Stacks.single_of_reduceGroup (balanced_ended hreached hended) hexpecting hopen hreduce
  · intro e he
    have hrun := passes_run env expression.toList
    have hevaluate : evaluate env expression =
        (Scanner.run env (Scanner.between .initial) 0 expression.toList).mapError
          (Failure.error expression) := rfl
    rw [hevaluate] at he
    cases hfails : Scanner.run env (Scanner.between .initial) 0 expression.toList with
    | ok v =>
      rw [hfails] at he
      cases he
    | error f =>
      rw [hfails] at he hrun
      cases he
      exact ⟨f, hrun.kind_of_error, rfl⟩
  · intro p hreached
    exact hreached.sound.reads_le

end TagTemplate.Expr
