import Mathlib.Logic.Relation
import TagTemplate.Proofs.Expr.Derivation

/-!
# The two stacks fit together

The entries on the stack of operators tell how many operands there are: one in front of each
operator between operands, one for each comma of an open call, and one more where no operand is
expected.

- `needed`, `Stacks.Balanced`: what the entries tell of the operands;
- `Stacks.Balanced.supplied`: **an operator on top has its operands**;
- `Stacks.Balanced.called`: **a call on top has an operand for each comma, and one more where no
  operand is expected**;
- `Stacks.Applies`: one operator on top is applied; reductions do so one time after the other
  (`reduces_reduceFor`, `reduces_reduceGroup`), and the balance is kept (`Stacks.Balanced.reduces`);
- `balanced_close` and its like: **whatever is done to balanced stacks, they stay balanced or it
  fails for another reason**.
-/

namespace TagTemplate.Expr

open Relation

variable {env : Env}

/-! ## Balance -/

/-- How many operands the entries have in front of them, where an operand is expected. -/
def needed : List Entry → Nat
  | [] => 0
  | .operator (.sign _) :: entries => needed entries
  | .operator (.binary _) :: entries => needed entries + 1
  | .group :: entries => needed entries
  | .call _ commas _ :: entries => needed entries + commas

/-- Every open call has its base where the operands of the entries below it end. -/
def Based : List Entry → Prop
  | [] => True
  | .call _ _ base :: entries => base = needed entries ∧ Based entries
  | _ :: entries => Based entries

/-- The operand that nothing has come behind yet. -/
def Stacks.surplus (s : Stacks) : Nat := if s.expecting then 0 else 1

/-- The operands are those that the entries tell of. -/
structure Stacks.Balanced (s : Stacks) : Prop where
  based : Based s.operators
  height : s.operands.length = needed s.operators + s.surplus

theorem Based.base_le {entries : List Entry} (h : Based entries) {name : String}
    {commas base : Nat} (hmem : .call name commas base ∈ entries) : base ≤ needed entries := by
  induction entries with
  | nil => cases hmem
  | cons e entries ih =>
    cases e with
    | operator op =>
      have hbase := ih h (by simpa using hmem)
      cases op with
      | sign => exact hbase
      | binary => exact Nat.le_succ_of_le hbase
    | group => exact ih h (by simpa using hmem)
    | call name' commas' base' =>
      obtain ⟨hhere, hbelow⟩ := h
      rw [needed]
      rcases List.mem_cons.1 hmem with heq | hmem
      · cases heq
        omega
      · have hbase := ih hbelow hmem
        omega

/-- The operator has its operands on top: a sign one, every other operator two. -/
inductive Supplied : Operator → List Value → Prop
  | sign (s : Sign) (v : Value) (below : List Value) : Supplied (.sign s) (v :: below)
  | binary (op : Binary) (right left : Value) (below : List Value) :
      Supplied (.binary op) (right :: left :: below)

namespace Stacks.Balanced

variable {s : Stacks} {entries : List Entry} {operands : List Value} {expecting : Bool}

theorem initial : Stacks.initial.Balanced := ⟨trivial, rfl⟩

/-- Where no operand is expected, operators on top can be applied. -/
theorem complete (h : s.Balanced) (hexpecting : ¬ s.expecting = true) :
    Balanced ⟨s.operators, s.operands, false⟩ := by
  rw [Bool.not_eq_true] at hexpecting
  rw [← hexpecting]
  exact h

/-- **No open call has its base above the operands.** -/
theorem base_le (h : s.Balanced) {name : String} {commas base : Nat}
    (hmem : .call name commas base ∈ s.operators) : base ≤ s.operands.length := by
  have hbase := h.based.base_le hmem
  have hheight := h.height
  omega

/-- **An operator on top has its operands.** -/
theorem supplied {op : Operator}
    (h : Balanced ⟨.operator op :: entries, operands, false⟩) : Supplied op operands := by
  have hheight : operands.length = needed (.operator op :: entries) + 1 := h.height
  cases op with
  | sign s =>
    obtain ⟨v, below, rfl⟩ := List.exists_cons_of_length_eq_add_one hheight
    exact .sign s v below
  | binary op =>
    rw [needed] at hheight
    obtain ⟨right, below, rfl⟩ := List.exists_cons_of_length_eq_add_one hheight
    obtain ⟨left, below, rfl⟩ :=
      List.exists_cons_of_length_eq_add_one (Nat.succ.inj hheight)
    exact .binary op right left below

/-- **A call on top has an operand for each comma, and one more where no operand is expected.** -/
theorem called {name : String} {commas base : Nat}
    (h : Balanced ⟨.call name commas base :: entries, operands, expecting⟩) :
    operands.length = base + commas + if expecting then 0 else 1 := by
  have hheight := h.height
  obtain ⟨rfl, -⟩ := h.based
  exact hheight

/-- **Where nothing is open and no operator is left, there is one operand.** -/
theorem single (h : Balanced ⟨[], operands, false⟩) : ∃ v, operands = [v] :=
  List.length_eq_one_iff.1 h.height

end Stacks.Balanced

/-! ## Failures -/

/-- A problem of stacks that do not fit together. -/
def Problem.IsMisfit : Problem → Prop
  | .missingOperand => True
  | .missingOperandFor _ => True
  | .malformedArguments _ => True
  | _ => False

/-- A failure of stacks that do not fit together. -/
def Failure.IsMisfit : Failure → Prop
  | .problem p => p.IsMisfit
  | _ => False

/-- The values have the property, and what fails does not fail for stacks that do not fit. -/
abbrev Passes {α : Type} (good : α → Prop) (x : Except Failure α) : Prop :=
  Ensures good (¬ Failure.IsMisfit ·) x

theorem fails_operandNumber (op : Operator) (v : Value) :
    FailsAs (¬ Problem.IsMisfit ·) (operandNumber op v) := by
  unfold operandNumber
  split
  · exact .ok _
  · exact .error id

theorem fails_sign (s : Sign) (v : Value) : FailsAs (¬ Problem.IsMisfit ·) (s.apply v) :=
  (fails_operandNumber _ _).map _

theorem fails_applyNumbers (op : Binary) (x y : Float) :
    FailsAs (¬ Problem.IsMisfit ·) (op.applyNumbers x y) := by
  cases op with
  | add => exact .ok _
  | sub => exact .ok _
  | mul => exact .ok _
  | div => exact .ite (.error id) (.ok _)

theorem fails_binary (op : Binary) (left right : Value) :
    FailsAs (¬ Problem.IsMisfit ·) (op.apply left right) := by
  refine .ite (.ok _) ?_
  refine (fails_operandNumber _ _).bind fun x => ?_
  exact (fails_operandNumber _ _).bind fun y => (fails_applyNumbers op x y).map _

/-! ## Operators applied -/

/-- The operator on top is applied. -/
inductive Stacks.Applies : Stacks → Stacks → Prop
  | intro {op : Operator} {entries : List Entry} {operands result : List Value} :
      applyOperator op operands = .ok result →
      Applies ⟨.operator op :: entries, operands, false⟩ ⟨entries, result, false⟩

/-- An operator that has its operands takes them all and leaves one; where it fails, the operands
are of the wrong kind. -/
theorem passes_applyOperator {op : Operator} {operands : List Value} (h : Supplied op operands)
    (entries : List Entry) :
    Passes (fun result => operands.length + needed entries =
      needed (.operator op :: entries) + result.length) (applyOperator op operands) := by
  have hlift : ∀ {result : Except Problem Value} (below : List Value),
      FailsAs (¬ Problem.IsMisfit ·) result →
      Passes (fun values => values.length = below.length + 1)
        ((result.mapError Failure.problem).map (· :: below)) := by
    intro result below hfails
    cases result with
    | ok v => exact .ok rfl
    | error p => exact .error (hfails p rfl)
  cases h with
  | sign s v below =>
    refine (hlift below (fails_sign s v)).imp (fun result hresult => ?_) fun _ => id
    rw [hresult, List.length_cons, needed]
    omega
  | binary op right left below =>
    refine (hlift below (fails_binary op left right)).imp (fun result hresult => ?_) fun _ => id
    rw [hresult, List.length_cons, List.length_cons, needed]
    omega

namespace Stacks.Balanced

variable {s s' : Stacks}

/-- An operator that is applied keeps the balance. -/
theorem applies (h : s.Balanced) (happly : s.Applies s') : s'.Balanced := by
  cases happly with
  | @intro op entries operands result happly =>
    have hresult := passes_applyOperator h.supplied entries
    rw [happly] at hresult
    have hlength := hresult.good_of_ok
    have hheight : operands.length = needed (.operator op :: entries) + 1 := h.height
    refine ⟨h.based, ?_⟩
    show result.length = needed entries + 1
    omega

/-- Operators that are applied one after the other keep the balance. -/
theorem reduces (h : s.Balanced) (hreduces : ReflTransGen Applies s s') : s'.Balanced := by
  induction hreduces with
  | refl => exact h
  | tail _ happly ih => exact ih.applies happly

end Stacks.Balanced

/-- A reduction ends in stacks that it comes to by applying operators, or with the failure of an
operator that it applies. -/
abbrev Reduces (s : Stacks) (x : Except Failure (List Entry × List Value)) : Prop :=
  Ensures (fun reduced => ReflTransGen Stacks.Applies s ⟨reduced.1, reduced.2, false⟩)
    (fun e => ∃ op entries operands, applyOperator op operands = .error e ∧
      ReflTransGen Stacks.Applies s ⟨.operator op :: entries, operands, false⟩) x

theorem Reduces.cons {op : Operator} {entries : List Entry} {operands : List Value}
    {rest : List Value → Except Failure (List Entry × List Value)}
    (h : ∀ result, Reduces ⟨entries, result, false⟩ (rest result)) :
    Reduces ⟨.operator op :: entries, operands, false⟩ ((applyOperator op operands).bind rest) := by
  cases happly : applyOperator op operands with
  | error e => exact .error ⟨op, entries, operands, happly, .refl⟩
  | ok result =>
    refine (h result).imp (fun reduced hreduced => .head (.intro happly) hreduced) ?_
    rintro e ⟨op', entries', operands', hfails, hreduced⟩
    exact ⟨op', entries', operands', hfails, .head (.intro happly) hreduced⟩

/-- Operators that bind at least as strongly are applied one after the other. -/
theorem reduces_reduceFor (op : Binary) (entries : List Entry) (operands : List Value) :
    Reduces ⟨entries, operands, false⟩ (reduceFor op entries operands) := by
  induction entries generalizing operands with
  | nil => exact .ok .refl
  | cons e entries ih =>
    cases e with
    | operator top =>
      rw [reduceFor]
      exact .ite (fun _ => Reduces.cons ih) fun _ => .ok .refl
    | group => exact .ok .refl
    | call name commas base => exact .ok .refl

/-- The operators of a group are applied one after the other. -/
theorem reduces_reduceGroup (entries : List Entry) (operands : List Value) :
    Reduces ⟨entries, operands, false⟩ (reduceGroup entries operands) := by
  induction entries generalizing operands with
  | nil => exact .ok .refl
  | cons e entries ih =>
    cases e with
    | operator top => exact Reduces.cons ih
    | group => exact .ok .refl
    | call name commas base => exact .ok .refl

/-- **A reduction of balanced stacks finds the operands of all operators.** -/
theorem Reduces.passes {s : Stacks} {x : Except Failure (List Entry × List Value)}
    (h : Reduces s x) (hs : s.Balanced) :
    Passes (fun reduced => Stacks.Balanced ⟨reduced.1, reduced.2, false⟩) x := by
  refine h.imp (fun reduced hreduced => hs.reduces hreduced) ?_
  rintro e ⟨op, entries, operands, hfails, hreduced⟩
  have hpasses := passes_applyOperator (hs.reduces hreduced).supplied entries
  rw [hfails] at hpasses
  exact hpasses.kind_of_error

/-! ## What is done to the stacks -/

namespace Stacks

variable {s : Stacks}

theorem passes_stop {α : Type} {good : α → Prop} {p : Problem} (h : ¬ p.IsMisfit) :
    Passes good (stop p) :=
  .error h

/-- An operand comes where one is expected. -/
theorem balanced_pushOperand (h : s.Balanced) (v : Value) :
    Passes Balanced (s.pushOperand v) := by
  refine .ite (fun hexpecting => .ok ⟨h.based, ?_⟩) fun _ => passes_stop id
  have hheight := h.height
  rw [surplus, if_pos hexpecting] at hheight
  show s.operands.length + 1 = needed s.operators + 1
  omega

theorem balanced_pushSign (h : s.Balanced) (sign : Sign) : (s.pushSign sign).Balanced :=
  ⟨h.based, h.height⟩

theorem balanced_pushBinary (h : s.Balanced) (op : Binary) :
    Passes Balanced (s.pushBinary op) := by
  refine .ite (fun _ => passes_stop id) fun hexpecting => ?_
  refine ((reduces_reduceFor op _ _).passes (h.complete hexpecting)).map
    fun (operators, operands) hreduced => ?_
  -- the operand behind everything is now the one in front of the operator
  exact ⟨hreduced.based, hreduced.height⟩

theorem balanced_openGroup (h : s.Balanced) : Passes Balanced s.openGroup :=
  .ite (fun _ => .ok ⟨h.based, h.height⟩) fun _ => passes_stop id

/-- A call has its base where it is opened. -/
theorem balanced_openCall (h : s.Balanced) (name : String) : Passes Balanced (s.openCall name) := by
  refine .ite (fun hexpecting => .ok ?_) fun _ => passes_stop id
  have hheight := h.height
  rw [surplus, if_pos hexpecting, Nat.add_zero] at hheight
  exact ⟨⟨hheight, h.based⟩, h.height⟩

/-- **A call that is closed has the arguments that its commas tell of**, so it is carried out, and
its value takes their place. -/
theorem balanced_called {name : String} {commas base : Nat} {rest : List Entry}
    {operands : List Value} {expecting : Bool}
    (h : Balanced ⟨.call name commas base :: rest, operands, expecting⟩)
    (hempty : expecting = true → commas = 0) {supplied : Nat}
    (hsupplied : supplied = operands.length - base) :
    Passes Balanced
      (if supplied = (if supplied = 0 then 0 else commas + 1) then
        match env.functions.call ⟨name, env.scope, env.iteration⟩
          (operands.take supplied).reverse with
        | .ok v => Except.ok ⟨rest, v :: operands.drop supplied, false⟩
        | .error e => .error (.raised e)
      else stop (.malformedArguments name)) := by
  obtain ⟨hbase, hrest⟩ := h.based
  have hcalled := h.called
  -- above the base there is one operand more than commas, or none in an empty call
  have hcount : supplied = if supplied = 0 then 0 else commas + 1 := by
    cases expecting with
    | true =>
      obtain rfl := hempty rfl
      rw [if_pos rfl] at hcalled
      rw [if_pos (by omega)]
      omega
    | false =>
      rw [if_neg Bool.false_ne_true] at hcalled
      rw [if_neg (by omega)]
      omega
  rw [if_pos hcount]
  cases env.functions.call ⟨name, env.scope, env.iteration⟩ (operands.take supplied).reverse with
  | error e => exact .error id
  | ok v =>
    refine .ok ⟨hrest, ?_⟩
    show (operands.drop supplied).length + 1 = needed rest + 1
    rw [List.length_drop]
    omega

theorem balanced_close (h : s.Balanced) : Passes Balanced (s.close env) := by
  obtain ⟨entries, operands, expecting⟩ := s
  unfold close
  refine .ite (fun _ => passes_stop id) fun hcloses => ?_
  cases expecting with
  | true =>
    -- only a call without anything in its parentheses is closed where an operand is expected
    have hempty : inEmptyCall ⟨entries, operands, true⟩ = true := by simpa using hcloses
    obtain ⟨name, rest, hentries⟩ := entries_of_inEmptyCall hempty
    dsimp only at hentries
    subst hentries
    exact balanced_called h (fun _ => rfl) rfl
  | false =>
    refine ((reduces_reduceGroup entries operands).passes h).bind
      fun (operators, operands) hreduced => ?_
    match operators, hreduced with
    | [], _ => exact passes_stop id
    | .operator op :: rest, _ => exact passes_stop id
    | .group :: rest, hreduced => exact .ok ⟨hreduced.based, hreduced.height⟩
    | .call name commas base :: rest, hreduced => exact balanced_called hreduced nofun rfl

/-- The operand behind everything is now one of the call's. -/
theorem balanced_comma (h : s.Balanced) : Passes Balanced s.comma := by
  refine .ite (fun _ => passes_stop id) fun hexpecting => ?_
  refine ((reduces_reduceGroup _ _).passes (h.complete hexpecting)).bind
    fun (operators, operands) hreduced => ?_
  match operators, hreduced with
  | [], _ => exact passes_stop id
  | .operator op :: rest, _ => exact passes_stop id
  | .group :: rest, _ => exact passes_stop id
  | .call name commas base :: rest, hreduced => exact .ok ⟨hreduced.based, hreduced.height⟩

/-- Where nothing is open, no entry is left. -/
theorem reduceGroup_closed {entries : List Entry} (hopen : entries.any isOpen = false)
    {operands : List Value} {reduced : List Entry × List Value}
    (h : reduceGroup entries operands = .ok reduced) : reduced.1 = [] := by
  induction entries generalizing operands with
  | nil =>
    cases h
    rfl
  | cons e entries ih =>
    obtain ⟨he, hentries⟩ := Bool.or_eq_false_iff.1 hopen
    cases e with
    | operator top =>
      obtain ⟨result, -, hrest⟩ := bind_eq_ok h
      exact ih hentries hrest
    | group => cases he
    | call name commas base => cases he

/-- **When all operators are reduced, exactly one operand is left.** -/
theorem single_of_reduceGroup (h : s.Balanced) (hexpecting : s.expecting = false)
    (hopen : s.operators.any isOpen = false) {reduced : List Entry × List Value}
    (hreduce : reduceGroup s.operators s.operands = .ok reduced) :
    reduced.1 = [] ∧ ∃ v, reduced.2 = [v] := by
  have hnil := reduceGroup_closed hopen hreduce
  have hpasses := (reduces_reduceGroup _ _).passes (h.complete (by simp [hexpecting]))
  rw [hreduce] at hpasses
  have hreduced := hpasses.good_of_ok
  rw [hnil] at hreduced
  exact ⟨hnil, hreduced.single⟩

theorem passes_finish (h : s.Balanced) : Passes (fun _ => True) s.finish := by
  refine .ite (fun _ => .ok trivial) fun _ => .ite (fun _ => .error id) fun _ => ?_
  refine .ite (fun _ => passes_stop id) fun hexpecting => ?_
  refine ((reduces_reduceGroup _ _).passes (h.complete hexpecting)).bind fun (_, operands) _ => ?_
  dsimp only
  split
  · exact .ok trivial
  · exact passes_stop id

end Stacks

end TagTemplate.Expr
