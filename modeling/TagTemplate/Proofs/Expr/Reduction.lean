import TagTemplate.Proofs.Except
import TagTemplate.Proofs.Expr.Grammar

/-!
# The stacks on the tokens of a tree

- `Stacks.run`: the value that the stacks find for a list of tokens;
- `Stacks.run_operator`: an operator on top is applied before any token that settles it;
- `Tree.Evaluates`: what is shown of every kind of tree, one lemma for each;
- `Tree.evaluates`: the tokens of a tree of the grammar push its value, whatever lies on the stacks
  and whatever follows;
- `Stacks.run_tokens`: **the stacks find the value of the tree**.
-/

namespace TagTemplate.Expr

variable {env : Env}

namespace Stacks

/-- Hands a token to the stacks. -/
def feed (env : Env) (s : Stacks) : Token → Except Failure Stacks
  | .operand o => s.pushOperand (o.value env.scope)
  | .sign sign => .ok (s.pushSign sign)
  | .binary op => s.pushBinary op
  | .opening => s.openGroup
  | .closing => s.close env
  | .comma => s.comma
  | .call name => s.openCall name

/-- Hands tokens to the stacks and asks for the value after the last one. -/
def run (env : Env) : Stacks → List Token → Except Failure Value
  | s, [] => s.finish
  | s, t :: ts => (s.feed env t).bind fun s => s.run env ts

theorem run_cons (s : Stacks) (t : Token) (ts : List Token) :
    s.run env (t :: ts) = (s.feed env t).bind fun s => s.run env ts := rfl

end Stacks

/-! ## What may stand below and behind a tree -/

/-- Operators of this level and above are worked off before the next token has its effect. At the
end that takes a stack without open groups. -/
def Settles (level : Nat) (operators : List Entry) : List Token → Prop
  | [] => operators.any Stacks.isOpen = false
  | .binary op :: _ => op.precedence ≤ level
  | .closing :: _ => True
  | .comma :: _ => True
  | _ => False

/-- No operator on top of the stack is worked off by an operator of this level. Signs and primaries
have no operators between operands and fit everywhere. -/
def Fits (level : Nat) (operators : List Entry) : Prop :=
  level ≤ 2 → ∀ op rest, operators = .operator op :: rest → op.precedence < level

section

variable {level : Nat} {operators : List Entry}

theorem fits_nil : Fits level [] := nofun

theorem fits_group : Fits level (.group :: operators) := nofun

theorem fits_call {name : String} {commas base : Nat} :
    Fits level (.call name commas base :: operators) := nofun

end

theorem Settles.mono {low high : Nat} {operators : List Entry} {rest : List Token}
    (h : Settles low operators rest) (hle : low ≤ high) (op : Operator) :
    Settles high (.operator op :: operators) rest := by
  match rest with
  | [] => simpa [Settles, Stacks.isOpen] using h
  | .binary _ :: _ => exact Nat.le_trans h hle
  | .closing :: _ => trivial
  | .comma :: _ => trivial

theorem reduceFor_of_fits {op : Binary} {operators : List Entry} (h : Fits op.precedence operators)
    (operands : List Value) : reduceFor op operators operands = .ok (operators, operands) := by
  have hop : op.precedence ≤ 2 := by cases op <;> decide
  match operators with
  | [] => rfl
  | .operator top :: rest => rw [reduceFor, if_neg (Nat.not_le.2 (h hop top rest rfl))]
  | .group :: _ => rfl
  | .call .. :: _ => rfl

theorem applyOperator_ne_nil {op : Operator} {operands result : List Value}
    (h : applyOperator op operands = .ok result) : result ≠ [] := by
  unfold applyOperator at h
  split at h
  · cases h
  · obtain ⟨v, -, rfl⟩ := map_eq_ok h
    exact List.cons_ne_nil _ _
  · obtain ⟨v, -, rfl⟩ := map_eq_ok h
    exact List.cons_ne_nil _ _
  · cases h

namespace Stacks

/-- An operator on top is applied before any token that settles it has its effect. -/
theorem run_operator (op : Operator) {operators : List Entry} {rest : List Token}
    (h : Settles op.precedence operators rest) (operands : List Value) :
    run env ⟨.operator op :: operators, operands, false⟩ rest =
      (applyOperator op operands).bind fun operands =>
        run env ⟨operators, operands, false⟩ rest := by
  -- every token that settles the operator begins its work by applying it
  match rest with
  | [] =>
    have hopen : operators.any isOpen = false := h
    cases happly : applyOperator op operands with
    | error e => simp [run, finish, reduceGroup, hopen, isOpen, happly, Except.bind]
    | ok result =>
      have hne := applyOperator_ne_nil happly
      simp [run, finish, reduceGroup, hopen, isOpen, happly, Except.bind, hne]
  | .binary b :: _ =>
    have hle : b.precedence ≤ op.precedence := h
    rw [run_cons, feed, pushBinary, if_neg (by simp), reduceFor, if_pos hle]
    cases applyOperator op operands <;> rfl
  | .closing :: _ =>
    rw [run_cons, feed, close, if_neg (by simp), reduceGroup]
    cases applyOperator op operands <;> rfl
  | .comma :: _ =>
    rw [run_cons, feed, comma, if_neg (by simp), reduceGroup]
    cases applyOperator op operands <;> rfl

theorem run_sign (s : Sign) {operators : List Entry} {rest : List Token}
    (h : Settles (Operator.sign s).precedence operators rest) (v : Value) (operands : List Value) :
    run env ⟨.operator (.sign s) :: operators, v :: operands, false⟩ rest =
      ((s.apply v).mapError Failure.problem).bind fun v =>
        run env ⟨operators, v :: operands, false⟩ rest := by
  rw [run_operator (.sign s) h]
  show (((s.apply v).mapError Failure.problem).map (· :: operands)).bind _ = _
  cases s.apply v <;> rfl

theorem run_binary (op : Binary) {operators : List Entry} {rest : List Token}
    (h : Settles (Operator.binary op).precedence operators rest) (v w : Value)
    (operands : List Value) :
    run env ⟨.operator (.binary op) :: operators, w :: v :: operands, false⟩ rest =
      ((op.apply v w).mapError Failure.problem).bind fun v =>
        run env ⟨operators, v :: operands, false⟩ rest := by
  rw [run_operator (.binary op) h]
  show (((op.apply v w).mapError Failure.problem).map (· :: operands)).bind _ = _
  cases op.apply v w <;> rfl

end Stacks

/-! ## Trees -/

/-- The tokens of the tree push its value: whatever fits below them and settles them from behind. -/
def Tree.Evaluates (env : Env) (t : Tree) : Prop :=
  ∀ (operators : List Entry) (operands : List Value) (rest : List Token),
    Fits t.level operators → Settles t.level operators rest →
    Stacks.run env ⟨operators, operands, true⟩ (t.tokens ++ rest) =
      (t.eval env).bind fun v => Stacks.run env ⟨operators, v :: operands, false⟩ rest

theorem length_of_evalAll {ts : List Tree} {vs : List Value} (h : evalAll env ts = .ok vs) :
    vs.length = ts.length := by
  induction ts generalizing vs with
  | nil =>
    rw [evalAll] at h
    cases h
    rfl
  | cons t ts ih =>
    rw [evalAll] at h
    obtain ⟨v, -, hmap⟩ := bind_eq_ok h
    obtain ⟨ws, hws, rfl⟩ := map_eq_ok hmap
    rw [List.length_cons, List.length_cons, ih hws]

/-- The arguments after the first are pushed one by one, and the open call counts their commas. -/
theorem run_furtherTokens {ts : List Tree} (h : ∀ t ∈ ts, t.Evaluates env) (name : String)
    (commas base : Nat) (operators : List Entry) (operands : List Value) (rest : List Token) :
    Stacks.run env ⟨.call name commas base :: operators, operands, false⟩
        (furtherTokens ts ++ .closing :: rest) =
      (evalAll env ts).bind fun vs =>
        Stacks.run env
          ⟨.call name (commas + ts.length) base :: operators, vs.reverse ++ operands, false⟩
          (.closing :: rest) := by
  -- generalized over the commas that are counted and the operands that are pushed by then
  induction ts generalizing commas operands with
  | nil => rw [furtherTokens, evalAll]; rfl
  | cons t ts ih =>
    have ht := h t (by simp)
    have hts := ih fun u hu => h u (by simp [hu])
    rw [furtherTokens, List.cons_append, Stacks.run_cons, List.append_assoc]
    show Stacks.run env ⟨.call name (commas + 1) base :: operators, operands, true⟩ _ = _
    rw [ht _ _ _ fits_call ?_, evalAll]
    · cases t.eval env with
      | error e => rfl
      | ok v =>
        show Stacks.run env _ (furtherTokens ts ++ _) = _
        rw [hts]
        cases evalAll env ts with
        | error e => rfl
        | ok vs => simp [Except.bind, Except.map, Nat.add_assoc, Nat.add_comm 1]
    · cases ts <;> rw [furtherTokens] <;> trivial

/-- A closing parenthesis carries the call out on all operands above its base. -/
theorem run_closing_call {vs : List Value} {commas : Nat} {expecting : Bool}
    (h : vs = [] ∧ commas = 0 ∧ expecting = true ∨ vs.length = commas + 1 ∧ expecting = false)
    (name : String) (operators : List Entry) (operands : List Value) (rest : List Token) :
    Stacks.run env
        ⟨.call name commas operands.length :: operators, vs.reverse ++ operands, expecting⟩
        (.closing :: rest) =
      ((env.functions.call ⟨name, env.scope, env.iteration⟩ vs).mapError .raised).bind fun v =>
        Stacks.run env ⟨operators, v :: operands, false⟩ rest := by
  -- only an empty call may be closed where an operand is expected
  have hopen : (expecting && !(Stacks.inEmptyCall
      ⟨.call name commas operands.length :: operators, vs.reverse ++ operands, expecting⟩)) =
        false := by
    rcases h with ⟨rfl, rfl, rfl⟩ | ⟨-, rfl⟩ <;> simp [Stacks.inEmptyCall]
  have hsupplied : (vs.reverse ++ operands).length - operands.length = vs.length := by simp
  -- there is one operand more than commas
  have hcount : vs.length = if vs.length = 0 then 0 else commas + 1 := by
    rcases h with ⟨rfl, rfl, rfl⟩ | ⟨h, rfl⟩
    · rfl
    · rw [h, if_neg (by omega)]
  have htake : ((vs.reverse ++ operands).take vs.length).reverse = vs := by
    rw [← List.length_reverse, List.take_left, List.reverse_reverse]
  have hdrop : (vs.reverse ++ operands).drop vs.length = operands := by
    rw [← List.length_reverse, List.drop_left]
  rw [Stacks.run_cons, Stacks.feed, Stacks.close, hopen, reduceGroup]
  · simp only [Bool.false_eq_true, if_false, Except.bind, hsupplied, htake, hdrop]
    rw [if_pos hcount]
    cases env.functions.call ⟨name, env.scope, env.iteration⟩ vs <;> rfl
  · rintro _ _ ⟨⟩

/-- The arguments of a call are pushed one by one, and its parenthesis carries it out on them. -/
theorem run_argumentTokens {ts : List Tree} (h : ∀ t ∈ ts, t.Evaluates env) (name : String)
    (operators : List Entry) (operands : List Value) (rest : List Token) :
    Stacks.run env ⟨.call name 0 operands.length :: operators, operands, true⟩
        (argumentTokens ts ++ .closing :: rest) =
      (evalAll env ts).bind fun vs =>
        ((env.functions.call ⟨name, env.scope, env.iteration⟩ vs).mapError .raised).bind fun v =>
          Stacks.run env ⟨operators, v :: operands, false⟩ rest := by
  cases ts with
  | nil =>
    rw [argumentTokens, evalAll]
    exact run_closing_call (.inl ⟨rfl, rfl, rfl⟩) name operators operands rest
  | cons t ts =>
    have hsettles : Settles t.level (.call name 0 operands.length :: operators)
        (furtherTokens ts ++ .closing :: rest) := by
      cases ts <;> rw [furtherTokens] <;> trivial
    rw [argumentTokens, List.append_assoc, h t (by simp) _ _ _ fits_call hsettles, evalAll]
    cases t.eval env with
    | error e => rfl
    | ok v =>
      show Stacks.run env _ (furtherTokens ts ++ _) = _
      rw [run_furtherTokens fun u hu => h u (by simp [hu])]
      cases hvs : evalAll env ts with
      | error e => rfl
      | ok vs =>
        show Stacks.run env ⟨_, vs.reverse ++ v :: operands, false⟩ _ = _
        have happend : vs.reverse ++ v :: operands = (v :: vs).reverse ++ operands := by simp
        rw [happend, run_closing_call (.inr ⟨by simp [length_of_evalAll hvs], rfl⟩)]
        rfl

namespace Tree.Evaluates

variable {t l r : Tree} {ts : List Tree}

theorem operand (o : Operand) : (Tree.operand o).Evaluates env := by
  intro operators operands rest _ _
  rw [Tree.tokens, Tree.eval]
  rfl

/-- What a sign stands before binds at least as tightly, so it is settled first. -/
theorem sign (h : t.Evaluates env) (s : Sign) (hlevel : 3 ≤ t.level) :
    (Tree.sign s t).Evaluates env := by
  intro operators operands rest _ hsettles
  rw [Tree.tokens, Tree.eval, List.cons_append, Stacks.run_cons]
  show Stacks.run env ⟨.operator (.sign s) :: operators, operands, true⟩ _ = _
  rw [h _ _ _ (fun hle => by omega) (hsettles.mono hlevel _)]
  cases t.eval env with
  | error e => rfl
  | ok v => exact Stacks.run_sign s hsettles v operands

/-- An operator settles its left side, which binds no less tightly. Its right side binds more
tightly and leaves the operator on the stack. -/
theorem binary (hl : l.Evaluates env) (hr : r.Evaluates env) (op : Binary)
    (hleft : op.precedence ≤ l.level) (hright : op.precedence < r.level) :
    (Tree.binary op l r).Evaluates env := by
  intro operators operands rest hfits hsettles
  have hop : op.precedence ≤ 2 := by cases op <;> decide
  have hfitsl : Fits l.level operators := fun _ top below heq =>
    Nat.lt_of_lt_of_le (hfits hop top below heq) hleft
  have hfitsr : Fits r.level (.operator (.binary op) :: operators) := by
    rintro - top rest ⟨⟩
    exact hright
  rw [Tree.tokens, Tree.eval, List.append_assoc, List.cons_append,
    hl operators operands (.binary op :: (r.tokens ++ rest)) hfitsl hleft]
  cases l.eval env with
  | error e => rfl
  | ok v =>
    show Stacks.run env ⟨operators, v :: operands, false⟩ (.binary op :: (r.tokens ++ rest)) = _
    rw [Stacks.run_cons, Stacks.feed, Stacks.pushBinary, if_neg (by simp), reduceFor_of_fits hfits]
    show Stacks.run env ⟨.operator (.binary op) :: operators, v :: operands, true⟩ _ = _
    rw [hr _ _ _ hfitsr (hsettles.mono (Nat.le_of_lt hright) _)]
    cases r.eval env with
    | error e => rfl
    | ok w => exact Stacks.run_binary op hsettles v w operands

theorem group (h : t.Evaluates env) : (Tree.group t).Evaluates env := by
  intro operators operands rest _ _
  rw [Tree.tokens, Tree.eval, List.cons_append, List.append_assoc, Stacks.run_cons]
  show Stacks.run env ⟨.group :: operators, operands, true⟩ (t.tokens ++ .closing :: rest) = _
  rw [h (.group :: operators) operands (.closing :: rest) fits_group trivial]
  cases t.eval env <;> rfl

theorem call (h : ∀ t ∈ ts, t.Evaluates env) (name : String) :
    (Tree.call name ts).Evaluates env := by
  intro operators operands rest _ _
  rw [Tree.tokens, Tree.eval, List.cons_append, List.append_assoc, Stacks.run_cons]
  show Stacks.run env ⟨.call name 0 operands.length :: operators, operands, true⟩
    (argumentTokens ts ++ .closing :: rest) = _
  rw [run_argumentTokens h]
  cases evalAll env ts <;> rfl

end Tree.Evaluates

/-- **The tokens of a tree of the grammar push its value.** -/
theorem Tree.evaluates (env : Env) {t : Tree} (ht : t.Grammatical) : t.Evaluates env := by
  induction ht with
  | operand o => exact .operand o
  | sign s _ hlevel ih => exact ih.sign s hlevel
  | binary op _ _ hleft hright ihl ihr => exact ihl.binary ihr op hleft hright
  | group _ ih => exact ih.group
  | call name _ ih => exact .call ih name

/-- The stacks find the value of a tree of the grammar. -/
theorem Stacks.run_tokens {t : Tree} (ht : t.Grammatical) :
    Stacks.run env .initial t.tokens = t.eval env := by
  have h := Tree.evaluates env ht [] [] [] fits_nil rfl
  rw [List.append_nil] at h
  rw [Stacks.initial, h]
  cases t.eval env <;> rfl

end TagTemplate.Expr
