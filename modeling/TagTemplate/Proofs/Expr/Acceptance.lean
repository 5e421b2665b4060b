import TagTemplate.Proofs.Expr.Completion
import TagTemplate.Proofs.Expr.Derivation

/-!
# Which expressions are accepted

What is accepted are the spellings of the grammar, and besides them a slash behind a path, which
stands for nothing unless it is the root itself.

- `Scanner.exists_accepted`: an expression with a value is made of tokens in turn;
- `evaluate_eq_ok_iff`: **the expressions that have a value, and the values that they have**;
- `not_derives_slash`: the grammar has no place for a slash behind a name;
- `evaluate_drops_slash`: an expression that is accepted in spite of it.
-/

namespace TagTemplate.Expr

open TagTemplate.Text

theorem Accepted.blank {ts : List Token} {text : List Char} (h : Accepted ts text) {c : Char}
    (hc : isBlank c = true) : Accepted ts (c :: text) := by
  cases h with
  | nil hblanks => exact .nil (List.forall_mem_cons.2 ⟨hc, hblanks⟩)
  | cons hblanks htext hrest hslash =>
    rw [← List.cons_append]
    exact .cons (List.forall_mem_cons.2 ⟨hc, hblanks⟩) htext hrest hslash

/-- A division is white space away from what is in front, or begins the text. -/
theorem Accepted.startsBlank {ts : List Token} {text : List Char} (h : Accepted ts text)
    (hdiv : ts.head? = some (.binary .div)) (hslash : text.head? ≠ some '/') :
    StartsBlank text := by
  cases h with
  | nil => cases hdiv
  | @cons t ts takesSlash blanks text rest hblanks htext _ _ =>
    cases hdiv
    cases blanks with
    | nil =>
      cases htext with
      | spelled hspelled =>
        cases hspelled
        exact absurd rfl hslash
    | cons c cs => exact ⟨c, _, rfl, hblanks c (by simp)⟩

namespace Scanner

variable {env : Env} {held : Stacks} {v : Value}

/-- **An expression with a value is made of tokens in turn**, from which the stacks find the
value. -/
theorem exists_accepted (text : List Char) {held : Stacks} {position : Nat}
    (hrun : run env (between held) position text = .ok v) :
    ∃ ts, Accepted ts text ∧ Alternates held.expecting ts ∧ held.run env ts = .ok v := by
  induction hlength : text.length using Nat.strongRecOn generalizing text held position with
  | ind n ih =>
    -- a token may have many characters, so the induction is on the length of the text
    subst hlength
    cases text with
    | nil => exact ⟨[], .nil (List.forall_mem_nil _), trivial, hrun⟩
    | cons c rest =>
      rcases completes_start hrun with ⟨hblank, hrest⟩ | hcompletes
      · obtain ⟨ts, haccepted, hothers⟩ := ih _ (Nat.lt_succ_self _) rest hrest rfl
        exact ⟨ts, haccepted.blank hblank, hothers⟩
      · obtain ⟨t, takesSlash, tail, rest', held', position', rfl, htext, hfits, hslash, hfeed,
          hrest⟩ := hcompletes
        have hshorter : rest'.length < (c :: (tail ++ rest')).length := by
          simp only [List.length_cons, List.length_append]
          omega
        obtain ⟨ts, haccepted, halternates, hvalue⟩ := ih _ hshorter rest' hrest rfl
        rw [Stacks.expecting_of_feed hfits hfeed] at halternates
        refine ⟨t :: ts, ?_, ⟨hfits, halternates⟩, ?_⟩
        · exact .cons (List.forall_mem_nil _) htext haccepted
            fun htakes hdiv => haccepted.startsBlank hdiv (hslash htakes)
        · rw [Stacks.run_cons, hfeed]
          exact hvalue

end Scanner

/-- **The expressions that have a value, and the values that they have**: white space is null, and
everything else is a tree of the grammar, but for slashes behind paths. -/
theorem evaluate_eq_ok_iff (env : Env) (text : String) (v : Value) :
    evaluate env text = .ok v ↔
      (∀ c ∈ text.toList, isBlank c = true) ∧ v = .null ∨
        ∃ t : Tree, t.Grammatical ∧ Accepted t.tokens text.toList ∧ t.eval env = .ok v := by
  have hevaluate : evaluate env text =
      (Scanner.run env (Scanner.between .initial) 0 text.toList).mapError (Failure.error text) :=
    rfl
  constructor
  · intro h
    have hrun : Scanner.run env (Scanner.between .initial) 0 text.toList = .ok v :=
      mapError_eq_ok (hevaluate.symm.trans h)
    obtain ⟨ts, haccepted, halternates, hvalue⟩ := Scanner.exists_accepted text.toList hrun
    -- tokens that come to a value are those of a tree, unless there are none
    rcases Stacks.exists_tree halternates hvalue with ⟨rfl, hnull⟩ | ⟨t, rfl, ht⟩
    · cases haccepted with
      | nil hblanks => exact .inl ⟨hblanks, hnull⟩
    · exact .inr ⟨t, ht.grammatical, haccepted, ht.eval⟩
  · rintro (⟨hblank, rfl⟩ | ⟨t, ht, haccepted, heval⟩)
    · rw [hevaluate, Scanner.run_accepted env (.nil hblank) .initial trivial 0]
      rfl
    · have halternates : Alternates true (t.tokens ++ []) := t.alternates trivial
      rw [List.append_nil] at halternates
      rw [hevaluate, Scanner.run_accepted env haccepted .initial halternates 0,
        Stacks.run_tokens ht, heval]
      rfl

/-! ## What the grammar says of slashes -/

/-- The text is made of the tokens, with any white space around them. -/
inductive Derives : List Token → List Char → Prop
  | nil {blanks : List Char} : (∀ c ∈ blanks, isBlank c = true) → Derives [] blanks
  | cons {t : Token} {ts : List Token} {blanks text rest : List Char} :
      (∀ c ∈ blanks, isBlank c = true) → t.Spelled text → Derives ts rest →
      Derives (t :: ts) (blanks ++ (text ++ rest))

theorem Path.Writable.spelling_ne_nil {p : Path} (hp : p.Writable) : p.spelling ≠ [] := by
  rcases hp.eq_followed with ⟨q, step, rfl, hq, -⟩ | ⟨root, rfl, hroot⟩ | ⟨name, rfl⟩
  · rw [Path.spelling_followed, Path.lead_followed hq]
    simp
  · cases root with
    | absolute => exact List.cons_ne_nil _ _
    | current => exact List.cons_ne_nil _ _
    | parent => exact List.cons_ne_nil _ _
    | _ => exact absurd rfl hroot
  · exact fun hnil => (hp.steps name (List.mem_singleton.2 rfl)).1 (List.append_eq_nil_iff.1 hnil).1

theorem Token.Spelled.ne_nil {t : Token} {text : List Char} (h : t.Spelled text) : text ≠ [] := by
  cases h with
  | operand ho =>
    cases ho with
    | string => exact List.cons_ne_nil _ _
    | whole hne => exact hne
    | decimal => simp
    | keyword k => cases k <;> decide
    | path hp => exact hp.spelling_ne_nil
  | sign => exact List.cons_ne_nil _ _
  | binary => exact List.cons_ne_nil _ _
  | opening => exact List.cons_ne_nil _ _
  | closing => exact List.cons_ne_nil _ _
  | comma => exact List.cons_ne_nil _ _
  | call => simp

/-- An operand that ends in a slash is nothing but this slash. -/
theorem Operand.Spelled.eq_nil_of_slash {o : Operand} {text : List Char}
    (h : o.Spelled (text ++ ['/'])) : text = [] := by
  -- all other operands end in a quote, a digit, a point or a name character
  have hlast : ∀ before {last : List Char}, last ≠ [] → '/' ∉ last →
      text ++ ['/'] ≠ before ++ last := by
    intro before last hne hnot heq
    obtain ⟨others, c, rfl⟩ : ∃ others c, last = others ++ [c] :=
      ⟨_, _, (List.dropLast_concat_getLast hne).symm⟩
    rw [← List.append_assoc] at heq
    obtain ⟨-, hc⟩ := List.append_inj' heq rfl
    exact hnot (by rw [← hc]; simp)
  have hdigits : ∀ {digits : List Char}, (∀ c ∈ digits, c.isDigit = true) → '/' ∉ digits :=
    fun hall hmem => absurd (hall _ hmem) (by decide)
  have hname : ∀ {step : List Char}, IsStep step → '/' ∉ step :=
    fun hstep hmem => absurd (hstep.2 _ hmem) (by decide)
  generalize hwhole : text ++ ['/'] = whole at h
  cases h with
  | @string quote cs body hquote hbody =>
    have hnot : '/' ∉ [quote] := by rcases hquote with rfl | rfl <;> decide
    exact absurd hwhole (hlast (quote :: body) (List.cons_ne_nil quote []) hnot)
  | whole hne hall => exact absurd hwhole (hlast [] hne (hdigits hall))
  | decimal hne _ hfraction =>
    refine absurd hwhole (hlast _ (List.cons_ne_nil _ _) ?_)
    rw [List.mem_cons, not_or]
    exact ⟨by decide, hdigits hfraction⟩
  | keyword k =>
    exact absurd hwhole (hlast [] (by cases k <;> decide) (by cases k <;> decide))
  | @path p hp =>
    rcases hp.eq_followed with ⟨q, step, rfl, hq, hstep⟩ | ⟨root, rfl, hroot⟩ | ⟨step, rfl⟩
    · have hspelling : (q.followed step).spelling = (q.lead ++ ['/']) ++ step.toList := by
        rw [Path.spelling_followed, Path.lead_followed hq, List.append_assoc]
        rfl
      exact absurd (hwhole.trans hspelling) (hlast _ hstep.1 (hname hstep))
    · cases root with
      | absolute => exact (List.append_inj' hwhole rfl).1
      | current => exact absurd hwhole (hlast [] (List.cons_ne_nil '.' []) (by decide))
      | parent => exact absurd hwhole (hlast [] (List.cons_ne_nil '.' ['.']) (by decide))
      | _ => exact absurd rfl hroot
    · have hstep := hp.steps step (List.mem_singleton.2 rfl)
      rw [show Path.spelling ⟨.scoped, [step]⟩ = step.toList from List.append_nil _] at hwhole
      exact absurd hwhole (hlast [] hstep.1 (hname hstep))

/-- Without text there is no token. -/
theorem Derives.eq_nil {ts : List Token} (h : Derives ts []) : ts = [] := by
  generalize hempty : ([] : List Char) = text at h
  cases h with
  | nil => rfl
  | cons _ htext _ =>
    have hnil := List.append_eq_nil_iff.1 hempty.symm
    exact absurd (List.append_eq_nil_iff.1 hnil.2).1 htext.ne_nil

section Slashed

variable {name : List Char}

/-- There are only name characters and the slash in a name with a slash behind it. -/
theorem notMem_slashed (hname : IsName name) {c : Char} (hc : isNameChar c = false)
    (hne : c ≠ '/') :
    c ∉ name ++ ['/'] := by
  intro hmem
  rcases List.mem_append.1 hmem with hmem | hmem
  · rw [hname.isStep.2 c hmem] at hc
    cases hc
  · exact hne (List.mem_singleton.1 hmem)

/-- So there is no white space between its tokens. -/
theorem Derives.cases_slashed (hname : IsName name) {ts : List Token} {text : List Char}
    (h : Derives ts text) (hsubset : text ⊆ name ++ ['/']) :
    ts = [] ∧ text = [] ∨ ∃ t us front back, ts = t :: us ∧ text = front ++ back ∧
      t.Spelled front ∧ Derives us back := by
  have hblanks : ∀ {blanks : List Char}, (∀ c ∈ blanks, isBlank c = true) →
      blanks ⊆ name ++ ['/'] → blanks = [] := by
    intro blanks hall hin
    by_contra hne
    obtain ⟨c, cs, rfl⟩ := List.exists_cons_of_ne_nil hne
    have hc := hall c List.mem_cons_self
    exact notMem_slashed hname (Scanner.isNameChar_of_isBlank hc) (Scanner.ne_of_isBlank hc rfl)
      (hin List.mem_cons_self)
  cases h with
  | nil hall => exact .inl ⟨rfl, hblanks hall hsubset⟩
  | @cons t us blanks front back hall hfront hback =>
    obtain rfl := hblanks hall (List.append_subset.1 hsubset).1
    exact .inr ⟨t, us, front, back, rfl, rfl, hfront, hback⟩

/-- The tokens in it are operands, or an operator that is the slash. -/
theorem Token.Spelled.cases_slashed (hname : IsName name) {t : Token} {text : List Char}
    (h : t.Spelled text) (hsubset : text ⊆ name ++ ['/']) :
    (∃ o, t = .operand o ∧ o.Spelled text) ∨ ∃ op, t = .binary op ∧ text = ['/'] := by
  cases h with
  | @operand o _ ho => exact .inl ⟨o, rfl, ho⟩
  | binary op =>
    refine .inr ⟨op, rfl, ?_⟩
    by_contra hne
    have hsymbol : isNameChar op.symbol = false := by cases op <;> decide
    exact notMem_slashed hname hsymbol (fun heq => hne (by rw [heq])) (hsubset (by simp))
  | sign s =>
    have hsymbol : isNameChar s.symbol = false ∧ s.symbol ≠ '/' := by cases s <;> decide
    exact absurd (hsubset (by simp)) (notMem_slashed hname hsymbol.1 hsymbol.2)
  | opening | call =>
    exact absurd (hsubset (by simp)) (notMem_slashed hname (c := '(') (by decide) (by decide))
  | closing =>
    exact absurd (hsubset (by simp)) (notMem_slashed hname (c := ')') (by decide) (by decide))
  | comma =>
    exact absurd (hsubset (by simp)) (notMem_slashed hname (c := ',') (by decide) (by decide))

/-- There is no text behind the slash. -/
theorem eq_nil_of_slashed (hname : IsName name) {front back : List Char}
    (h : name ++ ['/'] = front ++ '/' :: back) : back = [] := by
  have hslash : '/' ∉ name := fun hmem => absurd (hname.isStep.2 _ hmem) (by decide)
  by_contra hne
  obtain ⟨others, c, rfl⟩ : ∃ others c, back = others ++ [c] :=
    ⟨_, _, (List.dropLast_concat_getLast hne).symm⟩
  have hsplit : name ++ ['/'] = (front ++ '/' :: others) ++ [c] := by
    rw [h]
    simp
  obtain ⟨rfl, -⟩ := List.append_inj' hsplit rfl
  exact hslash (by simp)

/-- **A name with a slash behind it is no expression of the grammar.** -/
theorem not_derives_slash (hname : IsName name) (t : Tree) :
    ¬ Derives t.tokens (name ++ ['/']) := by
  intro h
  -- behind the tokens of a tree there may be an operator
  have halternates : Alternates true (t.tokens ++ [.binary .add]) := t.alternates ⟨rfl, trivial⟩
  generalize t.tokens = ts at h halternates
  rcases h.cases_slashed hname (List.Subset.refl _) with
    ⟨-, hnil⟩ | ⟨t, us, front, back, rfl, hwhole, hfront, hback⟩
  · simp at hnil
  obtain ⟨hfits, hnext⟩ := halternates
  have hsubset : front ⊆ name ++ ['/'] ∧ back ⊆ name ++ ['/'] := by
    rw [hwhole]
    exact List.append_subset.1 (List.Subset.refl _)
  rcases hfront.cases_slashed hname hsubset.1 with ⟨o, rfl, ho⟩ | ⟨op, rfl, -⟩
  · rcases hback.cases_slashed hname hsubset.2 with
      ⟨-, rfl⟩ | ⟨t', us', front', back', rfl, rfl, hfront', hback'⟩
    · rw [List.append_nil] at hwhole
      rw [← hwhole] at ho
      obtain ⟨c, cs, rfl, -⟩ := hname
      cases ho.eq_nil_of_slash
    · obtain ⟨hfits', hnext'⟩ := hnext
      rcases hfront'.cases_slashed hname (List.append_subset.1 hsubset.2).1 with
        ⟨o', rfl, -⟩ | ⟨op, rfl, rfl⟩
      · cases hfits'
      · -- a division is the last token, and no tree ends in it
        obtain rfl := eq_nil_of_slashed hname hwhole
        obtain rfl := hback'.eq_nil
        cases hnext'.1
  · cases hfits

end Slashed

/-- The slash behind a path is dropped: what is no expression of the grammar has the value of the
path. -/
theorem evaluate_drops_slash :
    evaluate ⟨.ofUniverse ⟨[("a", .string "A")]⟩, .empty, none⟩ "a/" = .ok (.string "A") ∧
      ¬ ∃ t : Tree, t.Grammatical ∧ Derives t.tokens "a/".toList := by
  constructor
  · rfl
  · rintro ⟨t, -, h⟩
    exact not_derives_slash ⟨'a', [], rfl, rfl, List.forall_mem_nil _⟩ t h

end TagTemplate.Expr
