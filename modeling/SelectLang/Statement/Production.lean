import SelectLang.Statement.SyntaxError

/-!
# Productions

A production reads a part of a statement off the front of a list of tokens.  It never looks further
than the next token and never goes back, so a failure stands at the first token that was not read.
That what it leaves is a suffix of what it was given belongs to the type, and is why a chain of
parts ends.  Of productions that follow one another the first failure is the result (`run_bind`).
-/

namespace SelectLang

/-- Reads a part of a statement: the part or what was expected instead, and the tokens left. -/
@[ext]
structure Production (α : Type) where
  run : List Token → Except Expected α × List Token
  suffix_run : ∀ tokens, (run tokens).2 <:+ tokens

namespace Production

variable {α β : Type}

/-! ## Sequence -/

/-- Reads nothing. -/
protected def pure (a : α) : Production α where
  run tokens := (.ok a, tokens)
  suffix_run tokens := List.suffix_refl tokens

/-- Reads one part and then another that may depend on it. -/
protected def bind (p : Production α) (f : α → Production β) : Production β where
  run tokens :=
    match p.run tokens with
    | (.ok a, left) => (f a).run left
    | (.error e, left) => (.error e, left)
  suffix_run tokens := by
    have hp := p.suffix_run tokens
    split
    · rename_i a left h
      rw [h] at hp
      exact ((f a).suffix_run left).trans hp
    · rename_i e left h
      rw [h] at hp
      exact hp

instance : Monad Production where
  pure := Production.pure
  bind := Production.bind

@[simp] theorem run_pure (a : α) (tokens : List Token) :
    (pure a : Production α).run tokens = (.ok a, tokens) := rfl

@[simp] theorem run_bind (p : Production α) (f : α → Production β) (tokens : List Token) :
    (p >>= f).run tokens =
      match p.run tokens with
      | (.ok a, left) => (f a).run left
      | (.error e, left) => (.error e, left) := rfl

/-! ## Single tokens -/

/-- Reads the next token if it shows what is looked for. -/
def take (expected : Expected) (view : Token → Option α) : Production α where
  run
    | [] => (.error expected, [])
    | token :: rest =>
        match view token with
        | some a => (.ok a, rest)
        | none => (.error expected, token :: rest)
  suffix_run tokens := by
    cases tokens with
    | nil => exact List.suffix_refl _
    | cons token rest =>
      dsimp only
      split
      · exact List.suffix_cons _ _
      · exact List.suffix_refl _

/-- Reads a token of the kind. -/
def expect (kind : Kind) : Production Unit :=
  take (.kind kind) fun token => if token.kind = kind then some () else none

/-- Reads a token of the kind if it is the next one, and tells whether it was. -/
def accept (kind : Kind) : Production Bool where
  run
    | [] => (.ok false, [])
    | token :: rest => if token.kind = kind then (.ok true, rest) else (.ok false, token :: rest)
  suffix_run tokens := by
    cases tokens with
    | nil => exact List.suffix_refl _
    | cons token rest =>
      dsimp only
      split
      · exact List.suffix_cons _ _
      · exact List.suffix_refl _

/-- Reads the end of the tokens. -/
def finish : Production Unit where
  run
    | [] => (.ok (), [])
    | token :: rest => (.error .endOfStatement, token :: rest)
  suffix_run tokens := by cases tokens <;> exact List.suffix_refl _

/-! ## Optional and repeated parts -/

/-- Reads a part that a token of the kind announces, if that is the next one. -/
def announced (kind : Kind) (p : Production α) : Production (Option α) := do
  if ← accept kind then
    let a ← p
    return some a
  else
    return none

/-- Reads the parts that follow a separator each. -/
def runOthers (separator : Kind) (part : Production α) (tokens : List Token) :
    Except Expected (List α) × List Token :=
  match tokens with
  | [] => (.ok [], [])
  | token :: rest =>
      if token.kind = separator then
        match _h : part.run rest with
        | (.error e, left) => (.error e, left)
        | (.ok a, left) =>
            match runOthers separator part left with
            | (.error e, left) => (.error e, left)
            | (.ok others, left) => (.ok (a :: others), left)
      else (.ok [], token :: rest)
termination_by tokens.length
decreasing_by
  have hlen := (part.suffix_run rest).length_le
  rw [_h] at hlen
  exact Nat.lt_succ_of_le hlen

theorem runOthers_suffix (separator : Kind) (part : Production α) (tokens : List Token) :
    (runOthers separator part tokens).2 <:+ tokens := by
  fun_induction runOthers separator part tokens with
  | case1 => exact List.suffix_refl _
  | case2 token rest _ e left h =>
    have hpart := part.suffix_run rest
    rw [h] at hpart
    exact hpart.trans (List.suffix_cons _ _)
  | case3 token rest _ a left h e left' hothers ih =>
    have hpart := part.suffix_run rest
    rw [h] at hpart
    rw [hothers] at ih
    exact (ih.trans hpart).trans (List.suffix_cons _ _)
  | case4 token rest _ a left h others left' hothers ih =>
    have hpart := part.suffix_run rest
    rw [h] at hpart
    rw [hothers] at ih
    exact (ih.trans hpart).trans (List.suffix_cons _ _)
  | case5 => exact List.suffix_refl _

/-- Reads parts as long as a separator comes before the next one. -/
def others (separator : Kind) (part : Production α) : Production (List α) where
  run := runOthers separator part
  suffix_run := runOthers_suffix separator part

@[simp] theorem run_others (separator : Kind) (part : Production α) (tokens : List Token) :
    (others separator part).run tokens = runOthers separator part tokens := rfl

/-- Reads a part, and more of them as long as a separator follows: the first part and the others. -/
def chain (separator : Kind) (part : Production α) : Production (α × List α) := do
  let first ← part
  let others ← others separator part
  return (first, others)

end Production

end SelectLang
