import TagTemplate.Proofs.Expr.Operands
import TagTemplate.Proofs.Expr.Reduction

/-!
# Expressions mean what the grammar says

The tokens of a tree take turns between operands and what stands between them (`Tree.alternates`),
and so each of their spellings is read as it is meant (`run_token`, `run_accepted`). With the stacks
on the tokens of a tree this gives the meaning of a whole expression (`evaluate_spelled`).
-/

namespace TagTemplate.Expr

open TagTemplate.Text

variable {env : Env}

/-! ## Tokens in order -/

/-- The token may stand where an operand is expected, or where none is. -/
def Token.Fits (expecting : Bool) : Token → Prop
  | .binary _ => expecting = false
  | .comma => expecting = false
  | .closing => True
  | _ => expecting = true

/-- An operand is expected after the token. -/
def Token.expects : Token → Bool
  | .operand _ => false
  | .closing => false
  | _ => true

/-- Operands and what stands between them take turns. -/
def Alternates : Bool → List Token → Prop
  | _, [] => True
  | expecting, t :: ts => t.Fits expecting ∧ Alternates t.expects ts

theorem Stacks.expecting_of_feed {held held' : Stacks} {t : Token} (hfits : t.Fits held.expecting)
    (h : held.feed env t = .ok held') : held'.expecting = t.expects := by
  -- only an operand and a closing parenthesis leave nothing to be expected
  cases t with
  | operand o =>
    have hexpecting : held.expecting = true := hfits
    rw [feed, Scanner.pushOperand_of_expecting hexpecting] at h
    cases h
    rfl
  | sign s =>
    cases h
    exact hfits
  | binary op =>
    have hexpecting : held.expecting = false := hfits
    rw [feed, pushBinary, if_neg (by simp [hexpecting])] at h
    obtain ⟨reduced, -, rfl⟩ := map_eq_ok h
    rfl
  | opening =>
    have hexpecting : held.expecting = true := hfits
    rw [feed, openGroup, if_pos hexpecting] at h
    cases h
    exact hexpecting
  | closing =>
    rw [feed, close] at h
    split at h
    · cases h
    · obtain ⟨⟨operators, operands⟩, -, hclose⟩ := bind_eq_ok h
      dsimp only at hclose
      split at hclose
      · cases hclose
        rfl
      · rename_i name commas base rest
        by_cases hcount :
            operands.length - base = if operands.length - base = 0 then 0 else commas + 1
        · rw [if_pos hcount] at hclose
          split at hclose <;> cases hclose
          rfl
        · rw [if_neg hcount] at hclose
          cases hclose
      · cases hclose
  | comma =>
    rw [feed, comma] at h
    split at h
    · cases h
    · obtain ⟨⟨operators, operands⟩, -, hcomma⟩ := bind_eq_ok h
      dsimp only at hcomma
      split at hcomma
      · cases hcomma
        rfl
      · cases hcomma
  | call name =>
    have hexpecting : held.expecting = true := hfits
    rw [feed, openCall, if_pos hexpecting] at h
    cases h
    exact hexpecting

mutual

/-- The tokens of a tree take turns where an operand is expected. -/
theorem Tree.alternates (t : Tree) {rest : List Token} (h : Alternates false rest) :
    Alternates true (t.tokens ++ rest) := by
  cases t with
  | operand o =>
    rw [Tree.tokens]
    exact ⟨rfl, h⟩
  | sign s t =>
    rw [Tree.tokens]
    exact ⟨rfl, t.alternates h⟩
  | binary op l r =>
    rw [Tree.tokens, List.append_assoc]
    exact l.alternates ⟨rfl, r.alternates h⟩
  | group t =>
    rw [Tree.tokens, List.cons_append, List.append_assoc]
    exact ⟨rfl, t.alternates ⟨trivial, h⟩⟩
  | call name ts =>
    rw [Tree.tokens, List.cons_append, List.append_assoc]
    refine ⟨rfl, ?_⟩
    cases ts with
    | nil =>
      rw [argumentTokens]
      exact ⟨trivial, h⟩
    | cons t ts =>
      rw [argumentTokens, List.append_assoc]
      exact t.alternates (alternates_further ts ⟨trivial, h⟩)

theorem alternates_further (ts : List Tree) {rest : List Token} (h : Alternates false rest) :
    Alternates false (furtherTokens ts ++ rest) := by
  cases ts with
  | nil =>
    rw [furtherTokens]
    exact h
  | cons t ts =>
    rw [furtherTokens, List.cons_append, List.append_assoc]
    exact ⟨rfl, t.alternates (alternates_further ts h)⟩

end

/-- Every spelling of the grammar is accepted. -/
theorem Spells.accepted {ts : List Token} {text : List Char} (h : Spells ts text) :
    Accepted ts text := by
  induction h with
  | nil hblanks => exact .nil hblanks
  | cons hblanks htext _ hslash ih => exact .cons hblanks (.spelled htext) ih hslash

namespace Scanner

variable {held : Stacks}

/-- What follows an operand ends it. -/
theorem delimited_of_accepted {ts : List Token} {rest : List Char} (h : Accepted ts rest)
    (halternates : Alternates false ts) {takesSlash : Bool}
    (hslash : takesSlash = true → ts.head? = some (.binary .div) → StartsBlank rest) :
    Delimited takesSlash rest := by
  cases h with
  | nil hblanks =>
    cases rest with
    | nil => trivial
    | cons c cs => exact .inl (hblanks c (by simp))
  | @cons t ts _ blanks text rest hblanks htext _ _ =>
    cases blanks with
    | cons c cs => exact .inl (hblanks c (by simp))
    | nil =>
      obtain ⟨hfits, -⟩ := halternates
      cases htext with
      | slash => cases hfits
      | spelled htext =>
        cases htext with
        | operand => cases hfits
        | sign => cases hfits
        | opening => cases hfits
        | call => cases hfits
        | closing => exact .inr (.inl (by simp))
        | comma => exact .inr (.inl (by simp))
        | binary op =>
          cases op with
          | add => exact .inr (.inl (by simp [Binary.symbol]))
          | sub => exact .inr (.inl (by simp [Binary.symbol]))
          | mul => exact .inr (.inl (by simp [Binary.symbol]))
          | div =>
            cases takesSlash with
            | false => exact .inr (.inr ⟨rfl, rfl⟩)
            -- behind a path or a keyword a division needs white space in front
            | true =>
              obtain ⟨c, cs, heq, hc⟩ := hslash rfl rfl
              exact .inl (by rw [(List.cons.inj heq).1]; exact hc)

/-- An operand is pushed when what follows ends it. -/
theorem run_operand {o : Operand} {takesSlash : Bool} {text rest : List Char}
    (htakes : Takes env held takesSlash (o.value env.scope) text)
    (hexpecting : held.expecting = true) (hrest : Delimited takesSlash rest) (position : Nat) :
    run env (between held) position (text ++ rest) =
      (held.feed env (.operand o)).bind fun held =>
        run env (between held) (position + text.length) rest := by
  obtain ⟨pending, hscans, hfinish, hends⟩ := htakes
  rw [hscans, run_ended (hends rest hrest), hfinish, Stacks.feed,
    pushOperand_of_expecting hexpecting]
  rfl

/-- **A token that is written as it may be does to the stacks what the token does.** -/
theorem run_token {t : Token} {takesSlash : Bool} {text rest : List Char}
    (ht : t.Accepted takesSlash text) (hfits : t.Fits held.expecting)
    (hrest : ∀ o, t = .operand o → Delimited takesSlash rest) (position : Nat) :
    run env (between held) position (text ++ rest) =
      (held.feed env t).bind fun held =>
        run env (between held) (position + text.length) rest := by
  -- tokens of one character act on the stacks at once
  have honHeld : ∀ c (result : Except Failure Stacks),
      (between held).readIdle env c position = (between held).onHeld result →
      run env (between held) position ([c] ++ rest) =
        result.bind fun held => run env (between held) (position + 1) rest := by
    intro c result h
    have hread : (between held).read env c position = _ := read_idle env rfl c position
    rw [h] at hread
    rw [List.singleton_append, run_used hread]
    cases result <;> rfl
  cases ht with
  | slash hp => exact run_operand (takes_slash hfits hp) hfits (hrest _ rfl) position
  | spelled ht =>
    cases ht with
    | operand ho => exact run_operand (takes_operand env hfits ho) hfits (hrest _ rfl) position
    | sign s =>
      have hexpecting : held.expecting = true := hfits
      refine honHeld _ (.ok (held.pushSign s)) ?_
      cases s <;>
        simp [readIdle, Sign.symbol, signOrOperator, between, hexpecting, onHeld, Except.map]
    | binary op =>
      have hexpecting : held.expecting = false := hfits
      refine honHeld _ (held.pushBinary op) ?_
      cases op <;> simp [readIdle, Binary.symbol, signOrOperator, between, hexpecting]
    | opening => exact honHeld _ held.openGroup (by simp [readIdle, between])
    | closing => exact honHeld _ (held.close env) (by simp [readIdle, between])
    | comma => exact honHeld _ held.comma (by simp [readIdle, between])
    | @call name hname =>
      rw [List.append_assoc, scans_firstName hname, List.singleton_append,
        run_used (read_call env held name _), Stacks.feed, List.length_append]
      cases held.openCall name <;> rfl

/-- Tokens in turn do to the stacks what they do, however they are written. -/
theorem run_accepted (env : Env) {ts : List Token} {text : List Char} (h : Accepted ts text)
    (held : Stacks) (halternates : Alternates held.expecting ts) (position : Nat) :
    run env (between held) position text = held.run env ts := by
  induction h generalizing held position with
  | @nil blanks hblanks =>
    have hscans := scans_blanks env hblanks held position []
    rw [List.append_nil] at hscans
    rw [hscans]
    rfl
  | @cons t ts _ blanks text rest hblanks htext hrest hslash ih =>
    obtain ⟨hfits, hnext⟩ := halternates
    rw [scans_blanks env hblanks, run_token htext hfits, Stacks.run_cons]
    · cases hfeed : held.feed env t with
      | error e => rfl
      | ok held' =>
        -- the stacks expect an operand exactly when the tokens do
        rw [← Stacks.expecting_of_feed hfits hfeed] at hnext
        exact ih held' hnext _
    · rintro o rfl
      exact delimited_of_accepted hrest hnext hslash

theorem run_spells (env : Env) {ts : List Token} {text : List Char} (h : Spells ts text)
    (held : Stacks) (halternates : Alternates held.expecting ts) (position : Nat) :
    run env (between held) position text = held.run env ts :=
  run_accepted env h.accepted held halternates position

end Scanner

/-- A string joined to the result of a call with a keyword, a group and a bare root as arguments. -/
def joinedCall : Tree :=
  .binary .add (.operand (.string ['i', 't', '\'', 's']))
    (.call "if" [.operand (.keyword .true), .group (.operand (.path ⟨.scoped, ["name"]⟩)),
      .operand (.path ⟨.absolute, []⟩)])

theorem grammatical_joinedCall : joinedCall.Grammatical := by
  refine .binary _ (.operand _) (.call _ fun t ht => ?_) (by decide) (by decide)
  simp only [List.mem_cons, List.not_mem_nil, or_false] at ht
  rcases ht with rfl | rfl | rfl
  · exact .operand _
  · exact .group (.operand _)
  · exact .operand _

/-- A spelling of it, with white space in some of the places where it may stand. -/
def joinedText : List Char :=
  [' ', '\'', 'i', 't', '\\', '\'', 's', '\'', '+', 'i', 'f', '(', 't', 'r', 'u', 'e', ' ', ',',
    '(', ' ', 'n', 'a', 'm', 'e', ')', ',', '/', ')', '\n']

theorem spells_joinedCall : Spells joinedCall.tokens joinedText := by
  have hstring : Quotes '\'' ['i', 't', '\'', 's'] ['i', 't', '\\', '\'', 's'] :=
    .plain (by decide) (by decide) (.plain (by decide) (by decide)
      (.escaped (.plain (by decide) (by decide) .nil)))
  have hname : Path.Writable ⟨.scoped, ["name"]⟩ := by
    refine ⟨fun step hstep => ?_, fun _ => ?_⟩
    · rw [List.mem_singleton.1 hstep]
      exact ⟨by decide, List.all_eq_true.1 rfl⟩
    · exact ⟨"name", [], rfl, ⟨'n', ['a', 'm', 'e'], rfl, rfl, List.all_eq_true.1 rfl⟩,
        fun _ k => by cases k <;> decide⟩
  have hroot : Path.Writable ⟨.absolute, []⟩ := ⟨by simp, by simp⟩
  have hif : IsName "if".toList := ⟨'i', ['f'], rfl, rfl, List.all_eq_true.1 rfl⟩
  have hblank : ∀ c ∈ [' '], isBlank c = true := List.all_eq_true.1 rfl
  have hnone : ∀ c ∈ ([] : List Char), isBlank c = true := by simp
  have hend : ∀ c ∈ ['\n'], isBlank c = true := List.all_eq_true.1 rfl
  exact .cons hblank (.operand (.string (.inl rfl) hstring))
    (.cons hnone (.binary .add) (.cons hnone (.call hif) (.cons hnone (.operand (.keyword .true))
      (.cons hblank .comma (.cons hnone .opening (.cons hblank (.operand (.path hname))
        (.cons hnone .closing (.cons hnone .comma (.cons hnone (.operand (.path hroot))
          (.cons hnone .closing (.nil hend) nofun) nofun) nofun) nofun) nofun) nofun) nofun)
            nofun) nofun) nofun) nofun

end TagTemplate.Expr
