import TagTemplate.Proofs.Expr.Acceptance

/-!
# Expressions inside of expressions

What has a value as an expression of its own has this value wherever an operand may stand: in white
space, in parentheses and as an argument of a call. The text may end in the middle of a name, of a
numeral or of a path; the parenthesis or comma behind it ends them as the end of the text does.

- `Accepted.append`: texts of tokens one behind the other are the text of all these tokens;
- `exists_tree_of_evaluate`: an expression with a value is the text of a tree with this value;
- `Enclosed`: an expression in white space and parentheses;
- `exists_arguments`: expressions with commas between them are the arguments of a call;
- `evaluate_embedded`: **evaluation is compositional on texts**.
-/

namespace TagTemplate.Expr

open TagTemplate.Text

variable {env : Env} {v : Value}

/-! ## Texts of tokens -/

/-- White space in front. -/
theorem Accepted.behind {ts : List Token} {text blanks : List Char} (h : Accepted ts text)
    (hblanks : ∀ c ∈ blanks, isBlank c = true) : Accepted ts (blanks ++ text) := by
  induction blanks with
  | nil => exact h
  | cons c cs ih =>
    obtain ⟨hc, hcs⟩ := List.forall_mem_cons.1 hblanks
    exact (ih hcs).blank hc

/-- **Texts of tokens one behind the other are the text of all these tokens.** Only a division could
be read as a part of the path that it comes behind. -/
theorem Accepted.append {ts us : List Token} {text more : List Char} (h : Accepted ts text)
    (hmore : Accepted us more) (hdiv : us.head? ≠ some (.binary .div)) :
    Accepted (ts ++ us) (text ++ more) := by
  induction h with
  | nil hblanks => exact hmore.behind hblanks
  | @cons t ts _ blanks text rest hblanks htext _ hslash ih =>
    rw [List.append_assoc, List.append_assoc]
    refine .cons hblanks htext ih fun htakes hhead => ?_
    cases ts with
    | nil => exact absurd hhead hdiv
    | cons u ts =>
      -- the white space in front of the division is still there
      obtain ⟨c, cs, rfl, hc⟩ := hslash htakes hhead
      exact ⟨c, cs ++ more, rfl, hc⟩

/-- A token of its own behind a text, with nothing in between. -/
theorem Accepted.concat {ts : List Token} {text last : List Char} (h : Accepted ts text) {t : Token}
    (ht : t.Spelled last) (hdiv : t ≠ .binary .div) : Accepted (ts ++ [t]) (text ++ last) := by
  have hlast : Accepted [t] ([] ++ (last ++ [])) :=
    .cons (List.forall_mem_nil _) (.spelled ht) (.nil (List.forall_mem_nil _)) nofun
  rw [List.nil_append, List.append_nil] at hlast
  exact h.append hlast fun hhead => hdiv (Option.some.inj hhead)

/-- A token in front of a text, with nothing in between. -/
theorem Accepted.token {ts : List Token} {text first : List Char} (h : Accepted ts text) {t : Token}
    (ht : t.Spelled first) (hslash : t.takesSlash = false) : Accepted (t :: ts) (first ++ text) :=
  .cons (List.forall_mem_nil _) (.spelled ht) h fun htakes => by
    rw [hslash] at htakes
    cases htakes

/-! ## Trees of texts -/

/-- A text of the tokens of a tree has the value of the tree, or its error. -/
theorem evaluate_of_accepted {t : Tree} (ht : t.Grammatical) {text : String}
    (htext : Accepted t.tokens text.toList) :
    evaluate env text = (t.eval env).mapError (Failure.error text) := by
  have halternates : Alternates true (t.tokens ++ []) := t.alternates trivial
  rw [List.append_nil] at halternates
  have hrun := Scanner.run_accepted env htext .initial halternates 0
  rw [Stacks.run_tokens ht] at hrun
  rw [← hrun]
  rfl

/-- The expression is not blank and has this value. -/
structure HasValue (env : Env) (expression : String) (v : Value) : Prop where
  nonblank : ∃ c ∈ expression.toList, isBlank c = false
  evaluates : evaluate env expression = .ok v

/-- The text is that of a tree with this value. -/
def Denoted (env : Env) (text : List Char) (v : Value) : Prop :=
  ∃ t : Tree, t.Denotes env v ∧ Accepted t.tokens text

/-- **An expression with a value is the text of a tree with this value.** -/
theorem exists_tree_of_evaluate {expression : String} (h : HasValue env expression v) :
    Denoted env expression.toList v := by
  obtain ⟨⟨c, hmem, hc⟩, hvalue⟩ := h
  have hrun : Scanner.run env (Scanner.between .initial) 0 expression.toList = .ok v :=
    mapError_eq_ok hvalue
  obtain ⟨ts, haccepted, halternates, hts⟩ := Scanner.exists_accepted expression.toList hrun
  rcases Stacks.exists_tree halternates hts with ⟨rfl, -⟩ | ⟨t, rfl, ht⟩
  · -- without a token there is only white space
    cases haccepted with
    | nil hblanks =>
      rw [hblanks c hmem] at hc
      cases hc
  · exact ⟨t, ht, haccepted⟩

theorem Denoted.evaluate {text : String} (h : Denoted env text.toList v) :
    evaluate env text = .ok v := by
  obtain ⟨t, ht, haccepted⟩ := h
  rw [evaluate_of_accepted ht.grammatical haccepted, ht.eval]
  rfl

/-! ## White space and parentheses -/

/-- A text in white space and parentheses, any number of times. -/
inductive Enclosed (text : List Char) : List Char → Prop
  | self : Enclosed text text
  | spaced {whole before after : List Char} : Enclosed text whole →
      (∀ c ∈ before, isBlank c = true) → (∀ c ∈ after, isBlank c = true) →
      Enclosed text (before ++ (whole ++ after))
  | grouped {whole : List Char} : Enclosed text whole → Enclosed text ('(' :: (whole ++ [')']))

/-- What is around the text does not change what it is the text of, but for groups. -/
theorem Enclosed.denoted {text whole : List Char} (h : Enclosed text whole)
    (htext : Denoted env text v) : Denoted env whole v := by
  induction h with
  | self => exact htext
  | spaced _ hbefore hafter ih =>
    obtain ⟨t, ht, haccepted⟩ := ih
    have happend := haccepted.append (.nil hafter) (by simp)
    rw [List.append_nil] at happend
    exact ⟨t, ht, happend.behind hbefore⟩
  | grouped _ ih =>
    obtain ⟨t, ht, haccepted⟩ := ih
    refine ⟨.group t, ⟨.group ht.grammatical, ?_⟩, ?_⟩
    · rw [Tree.eval]
      exact ht.eval
    · rw [Tree.tokens]
      exact (haccepted.concat .closing (by simp)).token .opening rfl

/-! ## Calls -/

/-- The arguments after the first are all arguments, with a comma in front. -/
theorem argumentTokens_cons_cons (t u : Tree) (ts : List Tree) :
    argumentTokens (t :: u :: ts) = t.tokens ++ .comma :: argumentTokens (u :: ts) := by
  rw [argumentTokens, furtherTokens, argumentTokens]

/-- **Expressions with commas between them are the arguments of a call.** -/
theorem exists_arguments {expressions : List String} {vs : List Value}
    (h : List.Forall₂ (HasValue env) expressions vs) :
    ∃ ts : List Tree, (∀ t ∈ ts, t.Grammatical) ∧ evalAll env ts = .ok vs ∧
      Accepted (argumentTokens ts) ([','].intercalate (expressions.map String.toList)) := by
  induction h with
  | nil =>
    refine ⟨[], List.forall_mem_nil _, by rw [evalAll], ?_⟩
    rw [argumentTokens]
    exact .nil (List.forall_mem_nil _)
  | cons hfirst hothers ih =>
    obtain ⟨t, ht, haccepted⟩ := exists_tree_of_evaluate hfirst
    obtain ⟨ts, hts, heval, hmore⟩ := ih
    refine ⟨t :: ts, List.forall_mem_cons.2 ⟨ht.grammatical, hts⟩, ?_, ?_⟩
    · rw [evalAll, ht.eval, heval]
      rfl
    -- there is a comma only if another argument follows
    · have hlength := length_of_evalAll heval
      cases hothers with
      | nil =>
        obtain rfl := List.length_eq_zero_iff.1 hlength.symm
        rw [argumentTokens, furtherTokens, List.append_nil, List.map_cons, List.map_nil,
          List.intercalate_singleton]
        exact haccepted
      | cons =>
        obtain ⟨u, us, rfl⟩ := List.exists_cons_of_length_eq_add_one hlength.symm
        rw [argumentTokens_cons_cons, List.map_cons, List.map_cons, List.intercalate_cons_cons,
          List.append_assoc]
        exact haccepted.append (hmore.token .comma rfl) (by simp)

/-- **Evaluation is compositional on texts.** White space and parentheses around an expression with
a value do not change the value, and a call of such expressions is the call of the function with
their values, with its result or its error. -/
theorem evaluate_embedded (env : Env) :
    (∀ {expression text : String} {v : Value}, HasValue env expression v →
      Enclosed expression.toList text.toList → evaluate env text = .ok v) ∧
    ∀ {name : String} {expressions : List String} {vs : List Value}, IsName name.toList →
      List.Forall₂ (HasValue env) expressions vs →
      evaluate env (name ++ "(" ++ ",".intercalate expressions ++ ")") =
        env.functions.call ⟨name, env.scope, env.iteration⟩ vs := by
  constructor
  · intro expression text v hexpression htext
    exact (htext.denoted (exists_tree_of_evaluate hexpression)).evaluate
  · intro name expressions vs hname hexpressions
    obtain ⟨ts, hts, heval, haccepted⟩ := exists_arguments hexpressions
    have htext : Accepted (Tree.call name ts).tokens
        (name ++ "(" ++ ",".intercalate expressions ++ ")").toList := by
      rw [String.toList_append, String.toList_append, String.toList_append,
        String.toList_intercalate, List.append_assoc, Tree.tokens]
      exact (haccepted.concat .closing (by simp)).token (.call hname) rfl
    rw [evaluate_of_accepted (.call name hts) htext, Tree.eval, heval]
    show ((env.functions.call _ vs).mapError Failure.raised).mapError _ = _
    cases env.functions.call ⟨name, env.scope, env.iteration⟩ vs <;> rfl

/-- An entry in the universe, and the native functions only. -/
def entryEnv : Env := ⟨.ofUniverse ⟨[("a", .string "A")]⟩, .empty, none⟩

/-- Arguments that end in a keyword, in a slash behind a path and in white space. -/
theorem evaluate_embedded_choice :
    HasValue entryEnv "a/" (.string "A") ∧ Enclosed "a/".toList " ((a/ ) )".toList ∧
      evaluate entryEnv " ((a/ ) )" = .ok (.string "A") ∧ IsName "if".toList ∧
      List.Forall₂ (HasValue entryEnv) ["true", "a/", " 'b' "]
        [.bool true, .string "A", .string "b"] ∧
      evaluate entryEnv "if(true,a/, 'b' )" = .ok (.string "A") := by
  have hpath : HasValue entryEnv "a/" (.string "A") := ⟨⟨'a', by simp, rfl⟩, rfl⟩
  have htrue : HasValue entryEnv "true" (.bool true) := ⟨⟨'t', by simp, rfl⟩, rfl⟩
  have hstring : HasValue entryEnv " 'b' " (.string "b") := ⟨⟨'b', by simp, rfl⟩, rfl⟩
  have hblank : ∀ c ∈ [' '], isBlank c = true := List.all_eq_true.1 rfl
  have hnone : ∀ c ∈ ([] : List Char), isBlank c = true := List.forall_mem_nil _
  have henclosed : Enclosed "a/".toList " ((a/ ) )".toList :=
    .spaced (.grouped (.spaced (.grouped (.spaced .self hnone hblank)) hnone hblank)) hblank hnone
  have hif : IsName "if".toList := ⟨'i', ['f'], rfl, rfl, List.all_eq_true.1 rfl⟩
  have hall : List.Forall₂ (HasValue entryEnv) ["true", "a/", " 'b' "]
      [.bool true, .string "A", .string "b"] :=
    .cons htrue (.cons hpath (.cons hstring .nil))
  exact ⟨hpath, henclosed, (evaluate_embedded entryEnv).1 hpath henclosed, hif, hall,
    (evaluate_embedded entryEnv).2 hif hall⟩

end TagTemplate.Expr
