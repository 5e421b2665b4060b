import TagTemplate.Proofs.Expr.Acceptance
import TagTemplate.Proofs.Function.Unmarked

/-!
# Expressions that make no marks

An expression without marks has an unmarked value in an unmarked scope, as long as the functions
that it calls make none. What it calls can be read off its text: a call is a name and a parenthesis.

- `Harmless`: the expression holds no mark and spells no call of a function that makes one;
- `harmless_of_native`: with the native functions this leaves out `xml` and `xpath` only;
- `Token.Harmless`: the same for a token, which `Accepted.harmless` gets from the text;
- `evaluate_unmarked`: **harmless expressions have unmarked values**.
-/

namespace TagTemplate.Expr

open Text Slots

variable {env : Env} {functions : Registry} {v : Value}

/-- The expression holds no mark, and whatever looks like a call in it calls a function that makes
no mark. -/
structure Harmless (functions : Registry) (text : List Char) : Prop where
  unmarked : anchorMark ∉ text
  calls : ∀ name f, name.toList ++ ['('] <:+: text → functions.resolve? name = some f →
    Function.KeepsUnmarked f

/-- An expression without a parenthesis calls nothing. -/
theorem harmless_of_notMem {text : List Char} (hmark : anchorMark ∉ text) (hcall : '(' ∉ text) :
    Harmless functions text where
  unmarked := hmark
  calls _ _ hname _ :=
    absurd (hname.subset (List.mem_append_right _ List.mem_cons_self)) hcall

theorem harmless_nil : Harmless functions [] :=
  harmless_of_notMem List.not_mem_nil List.not_mem_nil

/-- **With the native functions only**, an expression without marks is harmless if it reads no
XML. -/
theorem harmless_of_native {text : List Char} (hmark : anchorMark ∉ text)
    (hxml : ¬ "xml(".toList <:+: text) (hxpath : ¬ "xpath(".toList <:+: text) :
    Harmless .empty text where
  unmarked := hmark
  calls name f hname hf := by
    have hnative : nativeLibrary name = some f := hf
    refine Function.keepsUnmarked_native hnative ?_ ?_
    · rintro rfl
      exact hxml hname
    · rintro rfl
      exact hxpath hname

/-- No part of a harmless expression is harmful. -/
theorem Harmless.of_infix {text part : List Char} (h : Harmless functions text)
    (hpart : part <:+: text) : Harmless functions part :=
  ⟨fun hmem => h.unmarked (hpart.subset hmem), fun name f hname =>
    h.calls name f (hname.trans hpart)⟩

/-! ## Tokens -/

/-- The token is a string without marks, or a call of a function that makes none, or neither a
string nor a call. -/
def Token.Harmless (functions : Registry) : Token → Prop
  | .operand (.string text) => anchorMark ∉ text
  | .call name => ∀ f, functions.resolve? name = some f → Function.KeepsUnmarked f
  | _ => True

/-- The characters of a string all stand between its quotes. -/
theorem Quotes.subset {quote : Char} {text body : List Char} (h : Quotes quote text body) :
    text ⊆ body := by
  induction h with
  | nil => exact List.Subset.refl _
  | plain _ _ _ ih => exact List.cons_subset_cons _ ih
  | escaped _ ih => exact List.Subset.trans (List.cons_subset_cons _ ih) (List.subset_cons_self ..)

theorem Token.Accepted.harmless {t : Token} {takesSlash : Bool} {text : List Char}
    (h : t.Accepted takesSlash text) (htext : Expr.Harmless functions text) :
    t.Harmless functions := by
  cases h with
  | slash => trivial
  | spelled h =>
    cases h with
    | operand ho =>
      cases ho with
      | string _ hquotes =>
        refine fun hmem => htext.unmarked ?_
        exact List.mem_cons_of_mem _ (List.mem_append_left _ (hquotes.subset hmem))
      | _ => trivial
    | call => exact fun f => htext.calls _ f (List.infix_refl _)
    | _ => trivial

/-- **The tokens of a harmless text are harmless.** -/
theorem Accepted.harmless {ts : List Token} {text : List Char} (h : Accepted ts text)
    (htext : Harmless functions text) : ∀ t ∈ ts, t.Harmless functions := by
  induction h with
  | nil => exact List.forall_mem_nil _
  | @cons t ts _ blanks text rest _ ht _ _ ih =>
    refine List.forall_mem_cons.2 ⟨ht.harmless (htext.of_infix ?_), ih (htext.of_infix ?_)⟩
    · exact ⟨blanks, rest, List.append_assoc ..⟩
    · exact ⟨blanks ++ text, [], by simp⟩

/-! ## Values of trees -/

theorem Sign.apply_unmarked {sign : Sign} {w : Value} (h : sign.apply v = .ok w) : w.Unmarked := by
  obtain ⟨x, -, rfl⟩ := map_eq_ok h
  exact .number _

theorem Binary.apply_unmarked {op : Binary} {w u : Value} (hv : v.Unmarked) (hw : w.Unmarked)
    (h : op.apply v w = .ok u) : u.Unmarked := by
  unfold Binary.apply at h
  split at h
  · cases h
    exact .string (unmarked_append hv.output hw.output)
  · obtain ⟨x, -, h⟩ := bind_eq_ok h
    obtain ⟨y, -, h⟩ := bind_eq_ok h
    obtain ⟨z, -, rfl⟩ := map_eq_ok h
    exact .number _

theorem Operand.value_unmarked {scope : Scope} (hscope : scope.Unmarked) {o : Operand}
    (ho : Token.Harmless functions (.operand o)) : (o.value scope).Unmarked := by
  cases o with
  | string text => exact .string (unmarked_ofList ho)
  | number whole fraction => exact .number _
  | keyword k =>
    cases k with
    | true => exact .bool _
    | false => exact .bool _
    | null => exact .null
  | path p => exact p.resolve_unmarked hscope

theorem mem_furtherTokens {ts : List Tree} {t : Tree} (ht : t ∈ ts) {token : Token}
    (htoken : token ∈ t.tokens) : token ∈ furtherTokens ts := by
  induction ts with
  | nil => cases ht
  | cons u ts ih =>
    rw [furtherTokens]
    refine List.mem_cons_of_mem _ (List.mem_append.2 ?_)
    rcases List.mem_cons.1 ht with rfl | ht
    · exact .inl htoken
    · exact .inr (ih ht)

/-- The tokens of the arguments are among those of the call. -/
theorem mem_argumentTokens {ts : List Tree} {t : Tree} (ht : t ∈ ts) {token : Token}
    (htoken : token ∈ t.tokens) : token ∈ argumentTokens ts := by
  cases ts with
  | nil => cases ht
  | cons u ts =>
    rw [argumentTokens]
    refine List.mem_append.2 ?_
    rcases List.mem_cons.1 ht with rfl | ht
    · exact .inl htoken
    · exact .inr (mem_furtherTokens ht htoken)

mutual

/-- **A tree of harmless tokens has an unmarked value.** -/
theorem Tree.eval_unmarked (hscope : env.scope.Unmarked)
    (hiteration : ∀ it ∈ env.iteration, it.Unmarked) :
    ∀ (t : Tree), (∀ token ∈ t.tokens, token.Harmless env.functions) →
      ∀ v, t.eval env = .ok v → v.Unmarked
  | .operand o, ht, v, h => by
    rw [Tree.eval] at h
    cases h
    exact Operand.value_unmarked hscope (ht _ List.mem_cons_self)
  | .sign s t, ht, v, h => by
    rw [Tree.eval] at h
    obtain ⟨w, -, h⟩ := bind_eq_ok h
    exact Sign.apply_unmarked (mapError_eq_ok h)
  | .binary op l r, ht, v, h => by
    rw [Tree.eval] at h
    obtain ⟨u, hu, h⟩ := bind_eq_ok h
    obtain ⟨w, hw, h⟩ := bind_eq_ok h
    have hl := l.eval_unmarked hscope hiteration
      (fun t hmem => ht t (List.mem_append_left _ hmem)) u hu
    have hr := r.eval_unmarked hscope hiteration
      (fun t hmem => ht t (List.mem_append_right _ (List.mem_cons_of_mem _ hmem))) w hw
    exact Binary.apply_unmarked hl hr (mapError_eq_ok h)
  | .group t, ht, v, h => by
    rw [Tree.eval] at h
    refine t.eval_unmarked hscope hiteration (fun token hmem => ht token ?_) v h
    exact List.mem_cons_of_mem _ (List.mem_append_left _ hmem)
  | .call name ts, ht, v, h => by
    rw [Tree.eval] at h
    obtain ⟨vs, hvs, h⟩ := bind_eq_ok h
    replace h := mapError_eq_ok h
    have hvalues := evalAll_unmarked hscope hiteration ts (fun t hmem token htoken => ht token
      (List.mem_cons_of_mem _ (List.mem_append_left _ (mem_argumentTokens hmem htoken)))) vs hvs
    unfold Registry.call at h
    split at h
    · rename_i f hf
      exact ht _ List.mem_cons_self f hf _ _ _ hscope hiteration hvalues h
    · cases h

theorem evalAll_unmarked (hscope : env.scope.Unmarked)
    (hiteration : ∀ it ∈ env.iteration, it.Unmarked) :
    ∀ (ts : List Tree), (∀ t ∈ ts, ∀ token ∈ t.tokens, token.Harmless env.functions) →
      ∀ vs, evalAll env ts = .ok vs → ∀ v ∈ vs, v.Unmarked
  | [], _, vs, h => by
    rw [evalAll] at h
    cases h
    exact List.forall_mem_nil _
  | t :: ts, ht, vs, h => by
    rw [evalAll] at h
    obtain ⟨w, hw, h⟩ := bind_eq_ok h
    obtain ⟨ws, hws, rfl⟩ := map_eq_ok h
    have hfirst := t.eval_unmarked hscope hiteration (ht t List.mem_cons_self) w hw
    have hothers := evalAll_unmarked hscope hiteration ts
      (fun u hu => ht u (List.mem_cons_of_mem _ hu)) ws hws
    exact List.forall_mem_cons.2 ⟨hfirst, hothers⟩

end

/-- **Harmless expressions have unmarked values**, in an unmarked scope and iteration. -/
theorem evaluate_unmarked (hscope : env.scope.Unmarked)
    (hiteration : ∀ it ∈ env.iteration, it.Unmarked) {expression : String}
    (hexpression : Harmless env.functions expression.toList)
    (h : evaluate env expression = .ok v) : v.Unmarked := by
  have hrun : Scanner.run env (Scanner.between .initial) 0 expression.toList = .ok v :=
    mapError_eq_ok h
  obtain ⟨ts, haccepted, halternates, hvalue⟩ := Scanner.exists_accepted _ hrun
  rcases Stacks.exists_tree halternates hvalue with ⟨-, rfl⟩ | ⟨t, rfl, ht⟩
  · exact .null
  · exact t.eval_unmarked hscope hiteration (haccepted.harmless hexpression) v ht.eval

end TagTemplate.Expr
