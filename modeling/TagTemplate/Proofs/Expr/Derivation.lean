import TagTemplate.Proofs.Expr.Meaning

/-!
# Trees behind the stacks

Tokens that the stacks take in without an error, up to a value, are the tokens of a tree of the
grammar, and the value is that of the tree.

- `Waiting`: the operators, groups and calls on the stack, each with the tokens and operands in
  front of it, where an operand is expected;
- `Complete`: the same with one more tree behind it, which is the operand on top;
- `complete_apply`: an operator that is applied joins the trees on both sides of it;
- `holds_feed`: every token keeps the stacks as they should be;
- `Stacks.exists_tree`: **what the stacks find a value for is a tree of the grammar**.
-/

namespace TagTemplate.Expr

variable {env : Env}

/-! ## Arguments of a call -/

/-- The arguments of an open call so far, each with the comma behind it. -/
def endedArguments (ts : List Tree) : List Token := ts.flatMap fun t => t.tokens ++ [.comma]

/-- The argument behind the last comma is the last of all. -/
theorem endedArguments_append (ts : List Tree) (t : Tree) :
    endedArguments ts ++ t.tokens = argumentTokens (ts ++ [t]) := by
  induction ts with
  | nil =>
    show t.tokens = argumentTokens [t]
    rw [argumentTokens, furtherTokens, List.append_nil]
  | cons u us ih =>
    have hcommas : ∀ us : List Tree, .comma :: argumentTokens (us ++ [t]) =
        furtherTokens (us ++ [t]) := by
      intro us
      cases us with
      | nil =>
        rw [List.nil_append, argumentTokens, furtherTokens]
        rfl
      | cons => rw [List.cons_append, argumentTokens, furtherTokens]
    show (u.tokens ++ [.comma]) ++ endedArguments us ++ t.tokens = _
    rw [List.append_assoc, ih, List.cons_append, argumentTokens, List.append_assoc, ← hcommas]
    rfl

/-- The comma behind the last argument is the only one that the arguments themselves do not have. -/
theorem endedArguments_eq {ts : List Tree} (h : ts ≠ []) :
    endedArguments ts = argumentTokens ts ++ [.comma] := by
  obtain ⟨us, u, rfl⟩ : ∃ us u, ts = us ++ [u] := ⟨_, _, (List.dropLast_concat_getLast h).symm⟩
  rw [← endedArguments_append, List.append_assoc]
  unfold endedArguments
  rw [List.flatMap_append]
  simp

theorem evalAll_append {ts : List Tree} {vs : List Value} (hts : evalAll env ts = .ok vs) {t : Tree}
    {v : Value} (ht : t.eval env = .ok v) : evalAll env (ts ++ [t]) = .ok (vs ++ [v]) := by
  induction ts generalizing vs with
  | nil =>
    cases hts
    rw [List.nil_append, evalAll, ht, evalAll]
    rfl
  | cons u us ih =>
    rw [evalAll] at hts
    obtain ⟨w, hw, hmap⟩ := bind_eq_ok hts
    obtain ⟨ws, hws, rfl⟩ := map_eq_ok hmap
    rw [List.cons_append, evalAll, hw, ih hws]
    rfl

/-! ## What the stacks hold -/

/-- The tree is of the grammar and has the value. -/
structure Tree.Denotes (env : Env) (t : Tree) (v : Value) : Prop where
  grammatical : t.Grammatical
  eval : t.eval env = .ok v

/-- The stacks hold what the tokens say, and an operand is expected. -/
inductive Waiting (env : Env) : List Entry → List Value → List Token → Prop
  | nil : Waiting env [] [] []
  | sign (s : Sign) {entries : List Entry} {operands : List Value} {ts : List Token} :
      Waiting env entries operands ts →
      Waiting env (.operator (.sign s) :: entries) operands (ts ++ [.sign s])
  | binary (op : Binary) {entries : List Entry} {operands : List Value} {ts : List Token}
      {left : Tree} {v : Value} :
      Waiting env entries operands ts → left.Denotes env v → op.precedence ≤ left.level →
      Fits op.precedence entries →
      Waiting env (.operator (.binary op) :: entries) (v :: operands)
        (ts ++ (left.tokens ++ [.binary op]))
  | group {entries : List Entry} {operands : List Value} {ts : List Token} :
      Waiting env entries operands ts → Waiting env (.group :: entries) operands (ts ++ [.opening])
  | call (name : String) {entries : List Entry} {operands : List Value} {ts : List Token}
      {arguments : List Tree} {vs : List Value} :
      Waiting env entries operands ts → (∀ t ∈ arguments, t.Grammatical) →
      evalAll env arguments = .ok vs →
      Waiting env (.call name arguments.length operands.length :: entries) (vs.reverse ++ operands)
        (ts ++ .call name :: endedArguments arguments)

/-- The stacks hold what the tokens say; the operand on top is a tree of at least this level. -/
def Complete (env : Env) (level : Nat) (entries : List Entry) (operands : List Value)
    (ts : List Token) : Prop :=
  ∃ (t : Tree) (v : Value) (below : List Value) (before : List Token),
    operands = v :: below ∧ ts = before ++ t.tokens ∧ Waiting env entries below before ∧
      t.Denotes env v ∧ level ≤ t.level ∧ Fits t.level entries

/-- The stacks hold what the tokens say. -/
def Stacks.Holds (env : Env) (s : Stacks) (ts : List Token) : Prop :=
  if s.expecting then Waiting env s.operators s.operands ts
  else Complete env 4 s.operators s.operands ts

theorem fits_of_two_lt {level : Nat} (h : 2 < level) (entries : List Entry) :
    Fits level entries :=
  fun hle => absurd hle (Nat.not_le.2 h)

/-- A primary behind everything that is waiting. -/
theorem Waiting.complete {entries : List Entry} {operands : List Value} {ts : List Token}
    (h : Waiting env entries operands ts) {t : Tree} {v : Value} (ht : t.Denotes env v)
    (hlevel : 4 ≤ t.level) : Complete env 4 entries (v :: operands) (ts ++ t.tokens) :=
  ⟨t, v, operands, ts, rfl, rfl, h, ht, hlevel, fits_of_two_lt (by omega) entries⟩

variable {level : Nat} {entries entries' : List Entry} {operands operands' : List Value}
  {ts : List Token}

theorem Waiting.call_inv {name : String} {commas base : Nat}
    (h : Waiting env (.call name commas base :: entries) operands ts) :
    ∃ (arguments : List Tree) (vs below : List Value) (before : List Token),
      (∀ t ∈ arguments, t.Grammatical) ∧ evalAll env arguments = .ok vs ∧
        arguments.length = commas ∧ base = below.length ∧ operands = vs.reverse ++ below ∧
        ts = before ++ .call name :: endedArguments arguments ∧
          Waiting env entries below before := by
  cases h with
  | call _ hwaiting hgrammatical heval =>
    exact ⟨_, _, _, _, hgrammatical, heval, rfl, rfl, rfl, rfl, hwaiting⟩

theorem Complete.mono (h : Complete env level entries operands ts) {low : Nat} (hle : low ≤ level) :
    Complete env low entries operands ts := by
  obtain ⟨t, v, below, before, hoperands, hts, hwaiting, ht, hlevel, hfits⟩ := h
  exact ⟨t, v, below, before, hoperands, hts, hwaiting, ht, Nat.le_trans hle hlevel, hfits⟩

/-- **An operator that is applied joins the trees on both sides of it.** -/
theorem complete_apply {op : Operator}
    (h : Complete env level (.operator op :: entries) operands ts)
    (happly : applyOperator op operands = .ok operands') :
    Complete env op.precedence entries operands' ts := by
  obtain ⟨t, v, below, before, rfl, rfl, hwaiting, ht, -, hfits⟩ := h
  cases hwaiting with
  | @sign s _ _ ts hwaiting =>
    obtain ⟨w, hw, rfl⟩ := map_eq_ok happly
    -- a weaker tree would have taken the sign as part of its first operand
    have hlevel : 3 ≤ t.level := by
      by_contra hlow
      have hlt : 3 < t.level := hfits (by omega) _ _ rfl
      omega
    refine ⟨.sign s t, w, below, ts, rfl, ?_, hwaiting, ⟨.sign s ht.grammatical hlevel, ?_⟩,
      Nat.le_refl 3, fits_of_two_lt (Nat.lt_succ_self 2) entries⟩
    · rw [Tree.tokens, List.append_assoc]
      rfl
    · rw [Tree.eval, ht.eval]
      exact hw
  | @binary op _ below ts left u hwaiting hleft hle hfits' =>
    obtain ⟨w, hw, rfl⟩ := map_eq_ok happly
    -- an operator of the same strength on the right would have come behind the whole
    have hlevel : op.precedence < t.level := by
      by_contra hlow
      have hop : op.precedence ≤ 2 := by cases op <;> decide
      exact hlow (hfits (by omega) _ _ rfl)
    refine ⟨.binary op left t, w, below, ts, rfl, ?_, hwaiting,
      ⟨.binary op hleft.grammatical ht.grammatical hle hlevel, ?_⟩, Nat.le_refl _, hfits'⟩
    · rw [Tree.tokens, List.append_assoc, List.append_assoc]
      rfl
    · rw [Tree.eval, hleft.eval, Except.bind, ht.eval]
      exact hw

/-- Applying the operators that bind at least as strongly leaves a tree that binds as strongly, and
none of these operators on top. -/
theorem complete_reduceFor {op : Binary} (h : Complete env level entries operands ts)
    (hlevel : op.precedence ≤ level)
    (hreduce : reduceFor op entries operands = .ok (entries', operands')) :
    Complete env op.precedence entries' operands' ts ∧ Fits op.precedence entries' := by
  induction entries generalizing operands level with
  | nil =>
    cases hreduce
    exact ⟨h.mono hlevel, fits_nil⟩
  | cons e entries ih =>
    cases e with
    | group =>
      cases hreduce
      exact ⟨h.mono hlevel, fits_group⟩
    | call name commas base =>
      cases hreduce
      exact ⟨h.mono hlevel, fits_call⟩
    | operator top =>
      rw [reduceFor] at hreduce
      split at hreduce
      · rename_i hle
        obtain ⟨applied, happly, hrest⟩ := bind_eq_ok hreduce
        exact ih (complete_apply h happly) hle hrest
      -- the operator on top binds less tightly and stays, so this one fits above it
      · rename_i hlt
        cases hreduce
        refine ⟨h.mono hlevel, ?_⟩
        rintro - top rest ⟨⟩
        exact Nat.not_le.1 hlt

/-- Applying all operators of a group leaves one tree, with no operator on top. -/
theorem complete_reduceGroup (h : Complete env level entries operands ts)
    (hreduce : reduceGroup entries operands = .ok (entries', operands')) :
    Complete env 0 entries' operands' ts ∧ (∀ op rest, entries' ≠ .operator op :: rest) ∧
      entries' <:+ entries := by
  induction entries generalizing operands level with
  | nil =>
    cases hreduce
    exact ⟨h.mono (Nat.zero_le level), nofun, List.suffix_refl _⟩
  | cons e entries ih =>
    cases e with
    | group =>
      cases hreduce
      exact ⟨h.mono (Nat.zero_le level), nofun, List.suffix_refl _⟩
    | call name commas base =>
      cases hreduce
      exact ⟨h.mono (Nat.zero_le level), nofun, List.suffix_refl _⟩
    | operator top =>
      obtain ⟨applied, happly, hrest⟩ := bind_eq_ok hreduce
      obtain ⟨hcomplete, hnone, hsuffix⟩ := ih (complete_apply h happly) hrest
      exact ⟨hcomplete, hnone, hsuffix.trans (List.suffix_cons _ _)⟩

namespace Stacks

/-- The stacks before the first token. -/
theorem holds_initial (env : Env) : Stacks.initial.Holds env [] := Waiting.nil

/-- A group that is closed is a primary. -/
theorem complete_group (h : Complete env level (.group :: entries) operands ts) :
    Complete env 4 entries operands (ts ++ [.closing]) := by
  obtain ⟨t, v, below, before, rfl, rfl, hwaiting, ht, -, -⟩ := h
  cases hwaiting with
  | @group _ _ ts hwaiting =>
    have hgroup : (Tree.group t).Denotes env v := by
      refine ⟨.group ht.grammatical, ?_⟩
      rw [Tree.eval]
      exact ht.eval
    have hcomplete := hwaiting.complete hgroup (Nat.le_refl 4)
    rw [Tree.tokens] at hcomplete
    rw [List.append_assoc, List.append_assoc]
    exact hcomplete

/-- The tree behind the last comma of an open call is its last argument. -/
theorem complete_call {name : String} {commas base : Nat}
    (h : Complete env level (.call name commas base :: entries) operands ts) :
    ∃ (arguments : List Tree) (vs below : List Value) (before : List Token),
      (∀ t ∈ arguments, t.Grammatical) ∧ evalAll env arguments = .ok vs ∧
        arguments.length = commas + 1 ∧ base = below.length ∧ operands = vs.reverse ++ below ∧
        ts = before ++ .call name :: argumentTokens arguments ∧
        Waiting env entries below before := by
  obtain ⟨t, v, below, before, rfl, rfl, hwaiting, ht, -, -⟩ := h
  obtain ⟨arguments, vs, below, before, hgrammatical, heval, rfl, rfl, rfl, rfl, hbefore⟩ :=
    hwaiting.call_inv
  -- the operand on top is the last argument, and commas have ended those before it
  refine ⟨arguments ++ [t], vs ++ [v], below, before, ?_, evalAll_append heval ht.eval, ?_, rfl,
    ?_, ?_, hbefore⟩
  · intro u hu
    rcases List.mem_append.1 hu with hu | hu
    · exact hgrammatical u hu
    · rw [List.mem_singleton.1 hu]
      exact ht.grammatical
  · rw [List.length_append]
    rfl
  · rw [List.reverse_append]
    rfl
  · rw [← endedArguments_append, List.append_assoc]
    rfl

/-- A call that is carried out is a primary. -/
theorem complete_called {name : String} {arguments : List Tree} {vs : List Value} {v : Value}
    (h : Waiting env entries operands ts) (hgrammatical : ∀ t ∈ arguments, t.Grammatical)
    (heval : evalAll env arguments = .ok vs)
    (hcall : env.functions.call ⟨name, env.scope, env.iteration⟩ vs = .ok v) :
    Complete env 4 entries (v :: operands)
      (ts ++ .call name :: argumentTokens arguments ++ [.closing]) := by
  have hdenotes : (Tree.call name arguments).Denotes env v := by
    refine ⟨.call name hgrammatical, ?_⟩
    rw [Tree.eval, heval]
    show Except.mapError _ (env.functions.call _ vs) = _
    rw [hcall]
    rfl
  have hcomplete := h.complete hdenotes (Nat.le_refl 4)
  rw [Tree.tokens] at hcomplete
  rw [List.append_assoc]
  exact hcomplete

/-- A closing parenthesis carries the call out on the values of its arguments. -/
theorem close_call {name : String} {commas : Nat} {vs below : List Value} {rest : List Entry}
    {s' : Stacks} {supplied : Nat} (hsupplied : supplied = vs.length)
    (hclose : (if supplied = (if supplied = 0 then 0 else commas + 1) then
        match env.functions.call ⟨name, env.scope, env.iteration⟩
          ((vs.reverse ++ below).take supplied).reverse with
        | .ok v => Except.ok ⟨rest, v :: (vs.reverse ++ below).drop supplied, false⟩
        | .error e => .error (.raised e)
      else stop (.malformedArguments name)) = .ok s') :
    ∃ v, env.functions.call ⟨name, env.scope, env.iteration⟩ vs = .ok v ∧
      s' = ⟨rest, v :: below, false⟩ := by
  subst hsupplied
  have htake : ((vs.reverse ++ below).take vs.length).reverse = vs := by
    rw [← List.length_reverse, List.take_left, List.reverse_reverse]
  have hdrop : (vs.reverse ++ below).drop vs.length = below := by
    rw [← List.length_reverse, List.drop_left]
  rw [htake, hdrop] at hclose
  by_cases hcount : vs.length = if vs.length = 0 then 0 else commas + 1
  · rw [if_pos hcount] at hclose
    cases hcall : env.functions.call ⟨name, env.scope, env.iteration⟩ vs with
    | ok v =>
      rw [hcall] at hclose
      exact ⟨v, rfl, (Except.ok.inj hclose).symm⟩
    | error e =>
      rw [hcall] at hclose
      cases hclose
  · rw [if_neg hcount] at hclose
    cases hclose

/-- What is known of a call that nothing has been put into. -/
theorem entries_of_inEmptyCall {s : Stacks} (h : s.inEmptyCall = true) :
    ∃ name rest, s.operators = .call name 0 s.operands.length :: rest := by
  unfold inEmptyCall at h
  split at h
  · rename_i name base rest hentries
    exact ⟨name, rest, by rw [hentries, beq_iff_eq.1 h]⟩
  · cases h

theorem holds_close {s s' : Stacks} (h : s.Holds env ts) (hclose : s.close env = .ok s') :
    s'.Holds env (ts ++ [.closing]) := by
  obtain ⟨entries, operands, expecting⟩ := s
  unfold close at hclose
  cases expecting with
  | true =>
    -- only a call without arguments can be closed where an operand is expected
    have hwaiting : Waiting env entries operands ts := h
    rw [Bool.true_and] at hclose
    cases hempty : (⟨entries, operands, true⟩ : Stacks).inEmptyCall with
    | false =>
      rw [hempty] at hclose
      cases hclose
    | true =>
      rw [hempty, if_neg (by simp)] at hclose
      obtain ⟨name, rest, hentries⟩ := entries_of_inEmptyCall hempty
      dsimp only at hentries
      subst hentries
      obtain ⟨arguments, vs, below, before, hgrammatical, heval, hlength, hbase, rfl, rfl,
        hbefore⟩ := hwaiting.call_inv
      obtain rfl := List.length_eq_zero_iff.1 hlength
      cases heval
      obtain ⟨v, hcall, rfl⟩ := @close_call env name 0 [] _ _ _ _ (by simp) hclose
      exact complete_called hbefore hgrammatical rfl hcall
  | false =>
    have hcomplete : Complete env 4 entries operands ts := h
    rw [Bool.false_and, if_neg Bool.false_ne_true] at hclose
    obtain ⟨⟨entries', operands'⟩, hreduce, hrest⟩ := bind_eq_ok hclose
    obtain ⟨hreduced, hnone, -⟩ := complete_reduceGroup hcomplete hreduce
    cases entries' with
    | nil => cases hrest
    | cons e rest =>
      cases e with
      | operator op => exact absurd rfl (hnone op rest)
      | group =>
        cases hrest
        exact complete_group hreduced
      | call name commas base =>
        obtain ⟨arguments, vs, below, before, hgrammatical, heval, hlength, rfl, rfl, rfl,
          hwaiting⟩ := complete_call hreduced
        obtain ⟨v, hcall, rfl⟩ := close_call (by simp) hrest
        exact complete_called hwaiting hgrammatical heval hcall

/-- A comma ends the argument in front of it. -/
theorem holds_comma {s s' : Stacks} (h : s.Holds env ts) (hexpecting : s.expecting = false)
    (hcomma : s.feed env .comma = .ok s') : s'.Holds env (ts ++ [.comma]) := by
  obtain ⟨entries, operands, expecting⟩ := s
  obtain rfl : expecting = false := hexpecting
  have hcomplete : Complete env 4 entries operands ts := h
  obtain ⟨⟨entries', operands'⟩, hreduce, hrest⟩ := bind_eq_ok hcomma
  obtain ⟨hreduced, -, -⟩ := complete_reduceGroup hcomplete hreduce
  -- a comma is an error anywhere but in a call
  cases entries' with
  | nil => cases hrest
  | cons e rest =>
    cases e with
    | operator op => cases hrest
    | group => cases hrest
    | call name commas base =>
      cases hrest
      obtain ⟨arguments, vs, below, before, hgrammatical, heval, hlength, rfl, rfl, rfl,
        hwaiting⟩ := complete_call hreduced
      have hne : arguments ≠ [] := by
        rintro rfl
        cases hlength
      have hcall := hwaiting.call name hgrammatical heval
      rw [hlength, endedArguments_eq hne, ← List.cons_append, ← List.append_assoc] at hcall
      exact hcall

/-- **Every token that is taken in leaves the stacks holding what the tokens say.** -/
theorem holds_feed {s s' : Stacks} (h : s.Holds env ts) {t : Token} (hfits : t.Fits s.expecting)
    (hfeed : s.feed env t = .ok s') : s'.Holds env (ts ++ [t]) := by
  obtain ⟨entries, operands, expecting⟩ := s
  cases t with
  | operand o =>
    obtain rfl : expecting = true := hfits
    have hwaiting : Waiting env entries operands ts := h
    have ho : (Tree.operand o).Denotes env (o.value env.scope) := by
      refine ⟨.operand o, ?_⟩
      rw [Tree.eval]
    have hcomplete := hwaiting.complete ho (Nat.le_refl 4)
    rw [Tree.tokens] at hcomplete
    cases hfeed
    exact hcomplete
  | sign s =>
    obtain rfl : expecting = true := hfits
    cases hfeed
    exact Waiting.sign s h
  | binary op =>
    obtain rfl : expecting = false := hfits
    have hcomplete : Complete env 4 entries operands ts := h
    obtain ⟨⟨entries', operands'⟩, hreduce, rfl⟩ := map_eq_ok hfeed
    have hop : op.precedence ≤ 4 := by cases op <;> decide
    -- what binds at least as tightly becomes the left side of the operator
    obtain ⟨⟨left, v, below, before, rfl, rfl, hwaiting, hleft, hlevel, -⟩, hfits'⟩ :=
      complete_reduceFor hcomplete hop hreduce
    rw [List.append_assoc]
    exact hwaiting.binary op hleft hlevel hfits'
  | opening =>
    obtain rfl : expecting = true := hfits
    cases hfeed
    exact Waiting.group h
  | closing => exact holds_close h hfeed
  | comma => exact holds_comma h hfits hfeed
  | call name =>
    obtain rfl : expecting = true := hfits
    have hwaiting : Waiting env entries operands ts := h
    cases hfeed
    exact hwaiting.call name (List.forall_mem_nil _) rfl

/-- Tokens in turn, all of them taken in. -/
theorem holds_run {v : Value} (rest : List Token) {s : Stacks} (h : s.Holds env ts)
    (halternates : Alternates s.expecting rest) (hrun : s.run env rest = .ok v) :
    ∃ last : Stacks, last.Holds env (ts ++ rest) ∧ last.finish = .ok v := by
  induction rest generalizing ts s with
  | nil =>
    rw [List.append_nil]
    exact ⟨s, h, hrun⟩
  | cons t rest ih =>
    obtain ⟨hfits, hnext⟩ := halternates
    obtain ⟨s', hfeed, hrest⟩ := bind_eq_ok hrun
    rw [← expecting_of_feed hfits hfeed] at hnext
    obtain ⟨last, hlast, hfinish⟩ := ih (holds_feed h hfits hfeed) hnext hrest
    rw [List.append_assoc] at hlast
    exact ⟨last, hlast, hfinish⟩

/-- **What the stacks find a value for is a tree of the grammar**, and the value is that of the
tree. Without any token it is null. -/
theorem exists_tree {v : Value} (halternates : Alternates true ts)
    (h : Stacks.initial.run env ts = .ok v) :
    ts = [] ∧ v = .null ∨ ∃ t : Tree, t.tokens = ts ∧ t.Denotes env v := by
  obtain ⟨⟨entries, operands, expecting⟩, hholds, hfinish⟩ :=
    holds_run ts (holds_initial env) halternates h
  rw [List.nil_append] at hholds
  unfold finish at hfinish
  cases expecting with
  | true =>
    have hwaiting : Waiting env entries operands ts := hholds
    cases entries with
    | nil =>
      cases hwaiting
      cases hfinish
      exact .inl ⟨rfl, rfl⟩
    | cons e entries =>
      rw [if_neg (by simp)] at hfinish
      split at hfinish <;> cases hfinish
  | false =>
    have hcomplete : Complete env 4 entries operands ts := hholds
    rw [if_neg (by obtain ⟨t, w, below, before, rfl, -⟩ := hcomplete; simp)] at hfinish
    split at hfinish
    · cases hfinish
    · rename_i hopen
      obtain ⟨⟨entries', operands'⟩, hreduce, hlast⟩ := bind_eq_ok hfinish
      obtain ⟨hreduced, hnone, hsuffix⟩ := complete_reduceGroup hcomplete hreduce
      -- no group or call is open, so no entry is left
      cases entries' with
      | nil =>
        obtain ⟨t, w, below, before, rfl, rfl, hwaiting, ht, -, -⟩ := hreduced
        cases hwaiting
        cases hlast
        exact .inr ⟨t, rfl, ht⟩
      | cons e rest =>
        have he : isOpen e = false := by
          refine Bool.eq_false_iff.2 fun hisOpen => hopen ?_
          exact List.any_eq_true.2 ⟨e, hsuffix.subset List.mem_cons_self, hisOpen⟩
        cases e with
        | operator op => exact absurd rfl (hnone op rest)
        | group => cases he
        | call => cases he

end Stacks

end TagTemplate.Expr
