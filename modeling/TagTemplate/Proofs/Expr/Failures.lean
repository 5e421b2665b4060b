import TagTemplate.Expr.Scanner
import TagTemplate.Proofs.Function.Failures

/-!
# What stops an expression

Everything that stops an expression names the expression, but for the errors of functions, which are
passed on as they are.

- `Failure.IsPlain`: a failure that is not an error of a function that names an element;
- `Stacks.failsPlainly_close`: the one place where functions are called;
- `failsPlainly_evaluate`: **no expression fails with an error that names an element**, if no added
  function does.
-/

namespace TagTemplate.Expr

/-- If the failure is the error of a function, it names no element. -/
def Failure.IsPlain : Failure → Prop
  | .raised e => e.IsPlain
  | _ => True

theorem Failure.IsPlain.error {f : Failure} (h : f.IsPlain) (expression : String) :
    (f.error expression).IsPlain := by
  cases f with
  | raised e => exact h
  | _ => trivial

theorem failsPlainly_stop {α : Type} (p : Problem) :
    FailsAs Failure.IsPlain (stop p : Except Failure α) :=
  .error trivial

/-! ## Stacks -/

theorem failsPlainly_applyOperator (op : Operator) (operands : List Value) :
    FailsAs Failure.IsPlain (applyOperator op operands) := by
  have hlift : ∀ (result : Except Problem Value) (rest : List Value),
      FailsAs Failure.IsPlain ((result.mapError Failure.problem).map (· :: rest)) := by
    intro result rest
    refine FailsAs.map ?_ _
    exact FailsAs.mapError_of_forall fun _ => trivial
  unfold applyOperator
  dsimp only
  split
  · exact failsPlainly_stop _
  · exact hlift _ _
  · exact hlift _ _
  · exact failsPlainly_stop _

theorem failsPlainly_reduceFor (op : Binary) (entries : List Entry) (operands : List Value) :
    FailsAs Failure.IsPlain (reduceFor op entries operands) := by
  induction entries generalizing operands with
  | nil => exact .ok _
  | cons entry rest ih =>
    cases entry with
    | operator top =>
      unfold reduceFor
      split
      · exact (failsPlainly_applyOperator top operands).bind ih
      · exact .ok _
    | group => exact .ok _
    | call name commas base => exact .ok _

theorem failsPlainly_reduceGroup (entries : List Entry) (operands : List Value) :
    FailsAs Failure.IsPlain (reduceGroup entries operands) := by
  induction entries generalizing operands with
  | nil => exact .ok _
  | cons entry rest ih =>
    cases entry with
    | operator top => exact (failsPlainly_applyOperator top operands).bind ih
    | group => exact .ok _
    | call name commas base => exact .ok _

namespace Stacks

variable {env : Env} (s : Stacks)

/-- Tokens that an operand must not precede. -/
theorem failsPlainly_expecting {p : Problem} (held : Stacks) :
    FailsAs Failure.IsPlain (if s.expecting then .ok held else stop p) :=
  .ite (.ok _) (failsPlainly_stop _)

theorem failsPlainly_pushBinary (op : Binary) : FailsAs Failure.IsPlain (s.pushBinary op) := by
  exact .ite (failsPlainly_stop _) ((failsPlainly_reduceFor _ _ _).map _)

/-- A call passes on the errors of its function. -/
theorem failsPlainly_close (h : env.functions.FailsPlainly) :
    FailsAs Failure.IsPlain (s.close env) := by
  refine .ite (failsPlainly_stop _) ?_
  refine (failsPlainly_reduceGroup _ _).bind fun (operators, operands) => ?_
  dsimp only
  split
  · exact .ok _
  · refine .ite ?_ (failsPlainly_stop _)
    split
    · exact .ok _
    · rename_i e he
      exact .error (env.functions.failsPlainly_call h _ _ e he)
  · exact failsPlainly_stop _

theorem failsPlainly_comma : FailsAs Failure.IsPlain s.comma := by
  refine .ite (failsPlainly_stop _) ?_
  refine (failsPlainly_reduceGroup _ _).bind fun (operators, operands) => ?_
  dsimp only
  split
  · exact .ok _
  · exact failsPlainly_stop _

theorem failsPlainly_finish : FailsAs Failure.IsPlain s.finish := by
  refine .ite (.ok _) (.ite (.error trivial) (.ite (failsPlainly_stop _) ?_))
  refine (failsPlainly_reduceGroup _ _).bind fun (_, operands) => ?_
  dsimp only
  split
  · exact .ok _
  · exact failsPlainly_stop _

end Stacks

/-! ## The scanner -/

namespace Scanner

variable {env : Env} (s : Scanner)

theorem failsPlainly_beginPath (root : Root) : FailsAs Failure.IsPlain (s.beginPath root) :=
  .ite (.ok _) (failsPlainly_stop _)

theorem failsPlainly_addStep (step : String) : FailsAs Failure.IsPlain (s.addStep step) := by
  unfold addStep
  split
  · exact .ok _
  · exact .ite (.ok _) (failsPlainly_stop _)

theorem failsPlainly_finishPath : FailsAs Failure.IsPlain (s.finishPath env) := by
  unfold finishPath
  split
  · exact .ok _
  · exact (s.held.failsPlainly_expecting _).map _

theorem failsPlainly_finishName : FailsAs Failure.IsPlain (s.finishName env) := by
  unfold finishName
  dsimp only
  split
  · exact (s.held.failsPlainly_expecting _).map _
  · exact (failsPlainly_addStep _ _).bind fun added => added.failsPlainly_finishPath

theorem failsPlainly_finishNumeral : FailsAs Failure.IsPlain s.finishNumeral := by
  unfold finishNumeral
  split
  · exact (s.held.failsPlainly_expecting _).map _
  · exact failsPlainly_stop _

theorem failsPlainly_finishRoot (root : Root) : FailsAs Failure.IsPlain (s.finishRoot env root) :=
  (s.failsPlainly_beginPath root).bind fun begun => begun.failsPlainly_finishPath

theorem failsPlainly_signOrOperator (sign : Sign) (op : Binary) :
    FailsAs Failure.IsPlain (s.signOrOperator sign op) :=
  .ite (.ok _) ((s.held.failsPlainly_pushBinary op).map _)

theorem failsPlainly_readIdle (h : env.functions.FailsPlainly) (c : Char) (position : Nat) :
    FailsAs Failure.IsPlain (s.readIdle env c position) := by
  refine .ite (.ok _) ?_
  refine .ite (s.failsPlainly_signOrOperator _ _) (.ite (s.failsPlainly_signOrOperator _ _) ?_)
  refine .ite ((s.held.failsPlainly_pushBinary _).map _) ?_
  refine .ite (.ite ?_ ((s.held.failsPlainly_pushBinary _).map _)) ?_
  · exact (s.failsPlainly_beginPath _).map _
  refine .ite ((s.held.failsPlainly_expecting _).map _) ?_
  refine .ite ((s.held.failsPlainly_close h).map _) (.ite (s.held.failsPlainly_comma.map _) ?_)
  refine .ite (.ite (.ok _) (.error trivial)) ?_
  exact .ite (.ok _) (.ite (.ok _) (.ite (.ok _) (.error trivial)))

theorem failsPlainly_readQuoted (quote : Char) (escaped : Bool) (c : Char) :
    FailsAs Failure.IsPlain (s.readQuoted quote escaped c) :=
  .ite (.ok _) (.ite (.ok _) (.ite ((s.held.failsPlainly_expecting _).map _) (.ok _)))

/-- A character is read in one of seven ways. -/
theorem failsPlainly_read (h : env.functions.FailsPlainly) (c : Char) (position : Nat) :
    FailsAs Failure.IsPlain (s.read env c position) := by
  unfold read
  dsimp only
  cases s.mode with
  | idle => exact (s.failsPlainly_readIdle h c position).map _
  | quoted quote escaped => exact (s.failsPlainly_readQuoted _ _ c).map _
  | name =>
    refine .ite (.ok _) (.ite (((s.held.failsPlainly_expecting _).map _).map _) ?_)
    exact .ite (((failsPlainly_addStep _ _).map _).map _) (s.failsPlainly_finishName.map _)
  | numeral seenPoint =>
    refine .ite (.ok _) (.ite (.ite (.error trivial) (.ok _)) ?_)
    exact .ite (.error trivial) (s.failsPlainly_finishNumeral.map _)
  | dot =>
    refine .ite (.ok _) (.ite (((s.failsPlainly_beginPath _).map _).map _) ?_)
    exact .ite (.ok _) ((s.failsPlainly_finishRoot _).map _)
  | dots =>
    exact .ite (((s.failsPlainly_beginPath _).map _).map _) ((s.failsPlainly_finishRoot _).map _)
  | slash => exact .ite (.ok _) (s.failsPlainly_finishPath.map _)

theorem failsPlainly_feed (h : env.functions.FailsPlainly) (c : Char) (position : Nat) :
    FailsAs Failure.IsPlain (s.feed env c position) := by
  refine (s.failsPlainly_read h c position).bind fun (used, next) => ?_
  exact .ite (.ok _) ((next.failsPlainly_read h c position).map _)

theorem failsPlainly_feedAll (h : env.functions.FailsPlainly) (position : Nat) (cs : List Char) :
    FailsAs Failure.IsPlain (s.feedAll env position cs) := by
  induction cs generalizing s position with
  | nil => exact .ok _
  | cons c cs ih => exact (s.failsPlainly_feed h c position).bind fun next => ih next _

theorem failsPlainly_finish : FailsAs Failure.IsPlain (s.finish env) := by
  refine FailsAs.bind ?_ fun ended => ended.held.failsPlainly_finish
  unfold finishToken
  split
  · exact .ok _
  · exact .error trivial
  · exact s.failsPlainly_finishName
  · exact s.failsPlainly_finishNumeral
  · exact s.failsPlainly_finishRoot _
  · exact s.failsPlainly_finishRoot _
  · exact s.failsPlainly_finishPath

end Scanner

/-- **No expression fails with an error that names an element**, if no added function does. -/
theorem failsPlainly_evaluate {env : Env} (h : env.functions.FailsPlainly) (expression : String) :
    FailsAs Error.IsPlain (evaluate env expression) := by
  refine FailsAs.mapError ?_ fun _ (hf : Failure.IsPlain _) => hf.error expression
  exact (Scanner.initial.failsPlainly_feedAll h 0 _).bind fun s => s.failsPlainly_finish

end TagTemplate.Expr
