import SoundSheet.Formula.Arithmetic

/-!
# The grammar of arithmetic

Arithmetic has the usual three layers. An **expression** is a term and further
terms that are added or subtracted; a **term** is a factor and further factors
that are multiplied or divided; a **factor** is a signed factor, an expression
in parentheses or an operand. Any token that is neither a parenthesis nor an
operator is an operand.

The parse trees of the three layers are the data types below.
`Expression.tokens` reads a tree back as the tokens it was written with, so a
list of tokens derives from the grammar exactly if it is the list of some tree.
The grammar is unambiguous: `Expression.eq_of_tokens` says that there is at most
one such tree.

A tree is evaluated from left to right, operators of one layer grouping to the
left. What operands and operators mean is left open (`Expression.eval`), so one
definition gives the value of a tree whose operands are known
(`Expression.value`) and the run of one whose operands have to be looked up
(`Expression.plan`).
-/

namespace SoundSheet.Formula

/-- The token of an operator. -/
def Operator.token : Operator → Token
  | add => ['+']
  | sub => ['-']
  | mul => ['*']
  | div => ['/']

/-- The operators of an expression: plus and minus. -/
def Operator.IsWeak (op : Operator) : Prop :=
  op = add ∨ op = sub

/-- The operators of a term: times and divide. -/
def Operator.IsStrong (op : Operator) : Prop :=
  op = mul ∨ op = div

/-- **What an operator means**: the operation on floating-point numbers, where a
division by a number that equals zero is an error. -/
def Operator.meaning : Operator → Float → Float → Except FormulaError Float
  | add, a, b => .ok (a + b)
  | sub, a, b => .ok (a - b)
  | mul, a, b => .ok (a * b)
  | div, a, b => if b == 0 then .error .divisionByZero else .ok (a / b)

/-- **Operand tokens**: all but the parentheses and the operators. -/
def IsOperand (t : Token) : Prop :=
  t ∉ [['('], [')'], ['+'], ['-'], ['*'], ['/']]

instance : DecidablePred IsOperand :=
  fun _ => inferInstanceAs (Decidable (_ ∉ _))

/-! ## Parse trees -/

mutual

/-- **An expression**: a term, and terms that are added or subtracted. -/
inductive Expression where
  /-- The first term and the others. -/
  | of (first : Term) (more : MoreTerms)

/-- The terms of an expression after the first. -/
inductive MoreTerms where
  /-- No more terms. -/
  | none
  /-- A term behind plus or minus, and the terms after it. -/
  | more (op : Operator) (weak : op.IsWeak) (term : Term) (rest : MoreTerms)

/-- **A term**: a factor, and factors that it is multiplied with or divided
by. -/
inductive Term where
  /-- The first factor and the others. -/
  | of (first : Factor) (more : MoreFactors)

/-- The factors of a term after the first. -/
inductive MoreFactors where
  /-- No more factors. -/
  | none
  /-- A factor behind times or divide, and the factors after it. -/
  | more (op : Operator) (strong : op.IsStrong) (factor : Factor) (rest : MoreFactors)

/-- **A factor**. -/
inductive Factor where
  /-- A factor behind a minus sign. -/
  | minus (factor : Factor)
  /-- A factor behind a plus sign. -/
  | plus (factor : Factor)
  /-- An expression in parentheses. -/
  | group (body : Expression)
  /-- An operand. -/
  | operand (token : Token) (plain : IsOperand token)

end

/-! ## The tokens of a tree -/

mutual

/-- **The tokens that an expression is written with**. -/
def Expression.tokens : Expression → List Token
  | .of first more => first.tokens ++ more.tokens

/-- The tokens of the terms after the first. -/
def MoreTerms.tokens : MoreTerms → List Token
  | .none => []
  | .more op _ term rest => op.token :: (term.tokens ++ rest.tokens)

/-- The tokens of a term. -/
def Term.tokens : Term → List Token
  | .of first more => first.tokens ++ more.tokens

/-- The tokens of the factors after the first. -/
def MoreFactors.tokens : MoreFactors → List Token
  | .none => []
  | .more op _ factor rest => op.token :: (factor.tokens ++ rest.tokens)

/-- The tokens of a factor. -/
def Factor.tokens : Factor → List Token
  | .minus factor => ['-'] :: factor.tokens
  | .plus factor => ['+'] :: factor.tokens
  | .group body => ['('] :: (body.tokens ++ [[')']])
  | .operand token _ => [token]

end

/-! ## The value of a tree -/

section Evaluation

variable {m : Type → Type} [Monad m] (apply : Operator → Float → Float → m Float)
  (operand : Token → m Float)

mutual

/-- **The value of an expression**, from left to right, for a meaning of the
operators and of the operands. -/
def Expression.eval : Expression → m Float
  | .of first more => first.eval >>= more.eval

/-- The value of an expression, from that of its part so far. -/
def MoreTerms.eval : MoreTerms → Float → m Float
  | .none, a => pure a
  | .more op _ term rest, a => do
    let b ← term.eval
    let c ← apply op a b
    rest.eval c

/-- The value of a term. -/
def Term.eval : Term → m Float
  | .of first more => first.eval >>= more.eval

/-- The value of a term, from that of its part so far. -/
def MoreFactors.eval : MoreFactors → Float → m Float
  | .none, a => pure a
  | .more op _ factor rest, a => do
    let b ← factor.eval
    let c ← apply op a b
    rest.eval c

/-- The value of a factor. -/
def Factor.eval : Factor → m Float
  | .minus factor => do
    let a ← factor.eval
    pure (-a)
  | .plus factor => factor.eval
  | .group body => body.eval
  | .operand token _ => operand token

end

end Evaluation

/-- **The value of an expression whose operands are known**: a number if every
operand reads as a number and no division meets a zero divisor, and else the
first error from the left. -/
def Expression.value (operand : Token → Except FormulaError Float) (e : Expression) :
    Except FormulaError Float :=
  e.eval Operator.meaning operand

/-- The run of an operator. -/
def Operator.plan (op : Operator) (a b : Float) : Plan Float :=
  Plan.ofExcept (op.apply a b)

/-- **The run of an expression** whose operands are looked up. -/
def Expression.plan (operand : Token → Plan Float) (e : Expression) : Plan Float :=
  e.eval Operator.plan operand

/-! ## Unambiguity

A tree is found again from its tokens and what follows them, provided that what
follows cannot be taken for a continuation of the tree. Reading from the left,
the next token always decides: a factor says by its first token what it is, and
an operator after a factor goes on with the innermost layer that has it. -/

/-- **No operator of rank at least `n` comes next.** -/
def Stops (n : Nat) (rest : List Token) : Prop :=
  ∀ op : Operator, n ≤ op.rank → rest.head? ≠ some op.token

theorem Operator.token_injective {op op' : Operator} (h : op.token = op'.token) : op = op' := by
  revert h
  cases op <;> cases op' <;> decide

theorem Operator.IsWeak.rank_eq {op : Operator} (h : op.IsWeak) : op.rank = 1 := by
  rcases h with rfl | rfl <;> rfl

theorem Operator.IsStrong.rank_eq {op : Operator} (h : op.IsStrong) : op.rank = 2 := by
  rcases h with rfl | rfl <;> rfl

theorem Operator.isWeak_or_isStrong (op : Operator) : op.IsWeak ∨ op.IsStrong := by
  cases op with
  | add => exact .inl (.inl rfl)
  | sub => exact .inl (.inr rfl)
  | mul => exact .inr (.inl rfl)
  | div => exact .inr (.inr rfl)

/-- An operator stops whatever binds tighter. -/
theorem stops_cons {n : Nat} {op : Operator} (h : op.rank < n) (rest : List Token) :
    Stops n (op.token :: rest) := by
  intro op' hn heq
  have : op = op' := Operator.token_injective (Option.some.inj heq)
  subst this
  omega

theorem stops_close (n : Nat) (rest : List Token) : Stops n ([')'] :: rest) := by
  intro op _ h
  cases op <;> exact absurd (Option.some.inj h) (by decide)

theorem stops_nil (n : Nat) : Stops n [] :=
  fun _ _ h => nomatch h

theorem Stops.mono {n k : Nat} {rest : List Token} (h : Stops n rest) (hnk : n ≤ k) :
    Stops k rest :=
  fun op hk => h op (Nat.le_trans hnk hk)

/-- What is left after further terms of an expression stops the term before
them. -/
theorem MoreTerms.stops (ts : MoreTerms) {rest : List Token} (h : Stops 1 rest) :
    Stops 2 (ts.tokens ++ rest) := by
  cases ts with
  | none => exact h.mono (by decide)
  | more op weak term more => exact stops_cons (by rw [weak.rank_eq]; decide) _

mutual

theorem Expression.eq_of_tokens_append : ∀ (e e' : Expression) {rest rest' : List Token},
    Stops 1 rest → Stops 1 rest' → e.tokens ++ rest = e'.tokens ++ rest' →
      e = e' ∧ rest = rest'
  | .of t ts, .of t' ts', rest, rest', hr, hr', h => by
    rw [Expression.tokens, Expression.tokens, List.append_assoc, List.append_assoc] at h
    obtain ⟨rfl, hts⟩ := t.eq_of_tokens_append t' (ts.stops hr) (ts'.stops hr') h
    obtain ⟨rfl, hrest⟩ := ts.eq_of_tokens_append ts' hr hr' hts
    exact ⟨rfl, hrest⟩

theorem MoreTerms.eq_of_tokens_append : ∀ (ts ts' : MoreTerms) {rest rest' : List Token},
    Stops 1 rest → Stops 1 rest' → ts.tokens ++ rest = ts'.tokens ++ rest' →
      ts = ts' ∧ rest = rest'
  | .none, .none, _, _, _, _, h => ⟨rfl, h⟩
  | .none, .more op weak t ts, rest, _, hr, _, h =>
    absurd (congrArg List.head? h) (hr op (Nat.le_of_eq weak.rank_eq.symm))
  | .more op weak t ts, .none, _, rest', _, hr', h =>
    absurd (congrArg List.head? h).symm (hr' op (Nat.le_of_eq weak.rank_eq.symm))
  | .more op weak t ts, .more op' weak' t' ts', rest, rest', hr, hr', h => by
    rw [MoreTerms.tokens, MoreTerms.tokens, List.cons_append, List.cons_append,
      List.append_assoc, List.append_assoc] at h
    obtain ⟨hop, ht⟩ := List.cons.inj h
    obtain rfl := Operator.token_injective hop
    obtain ⟨rfl, hts⟩ := t.eq_of_tokens_append t' (ts.stops hr) (ts'.stops hr') ht
    obtain ⟨rfl, hrest⟩ := ts.eq_of_tokens_append ts' hr hr' hts
    exact ⟨rfl, hrest⟩

theorem Term.eq_of_tokens_append : ∀ (t t' : Term) {rest rest' : List Token},
    Stops 2 rest → Stops 2 rest' → t.tokens ++ rest = t'.tokens ++ rest' →
      t = t' ∧ rest = rest'
  | .of u us, .of u' us', rest, rest', hr, hr', h => by
    rw [Term.tokens, Term.tokens, List.append_assoc, List.append_assoc] at h
    obtain ⟨rfl, hus⟩ := u.eq_of_tokens_append u' h
    obtain ⟨rfl, hrest⟩ := us.eq_of_tokens_append us' hr hr' hus
    exact ⟨rfl, hrest⟩

theorem MoreFactors.eq_of_tokens_append : ∀ (us us' : MoreFactors) {rest rest' : List Token},
    Stops 2 rest → Stops 2 rest' → us.tokens ++ rest = us'.tokens ++ rest' →
      us = us' ∧ rest = rest'
  | .none, .none, _, _, _, _, h => ⟨rfl, h⟩
  | .none, .more op strong u us, rest, _, hr, _, h =>
    absurd (congrArg List.head? h) (hr op (Nat.le_of_eq strong.rank_eq.symm))
  | .more op strong u us, .none, _, rest', _, hr', h =>
    absurd (congrArg List.head? h).symm (hr' op (Nat.le_of_eq strong.rank_eq.symm))
  | .more op strong u us, .more op' strong' u' us', rest, rest', hr, hr', h => by
    rw [MoreFactors.tokens, MoreFactors.tokens, List.cons_append, List.cons_append,
      List.append_assoc, List.append_assoc] at h
    obtain ⟨hop, hu⟩ := List.cons.inj h
    obtain rfl := Operator.token_injective hop
    obtain ⟨rfl, hus⟩ := u.eq_of_tokens_append u' hu
    obtain ⟨rfl, hrest⟩ := us.eq_of_tokens_append us' hr hr' hus
    exact ⟨rfl, hrest⟩

theorem Factor.eq_of_tokens_append : ∀ (u u' : Factor) {rest rest' : List Token},
    u.tokens ++ rest = u'.tokens ++ rest' → u = u' ∧ rest = rest'
  | .minus u, .minus u', rest, rest', h => by
    obtain ⟨rfl, hrest⟩ := u.eq_of_tokens_append u' (List.cons.inj h).2
    exact ⟨rfl, hrest⟩
  | .plus u, .plus u', rest, rest', h => by
    obtain ⟨rfl, hrest⟩ := u.eq_of_tokens_append u' (List.cons.inj h).2
    exact ⟨rfl, hrest⟩
  | .group e, .group e', rest, rest', h => by
    -- the closing parenthesis stops both expressions
    have he : e.tokens ++ ([')'] :: rest) = e'.tokens ++ ([')'] :: rest') := by
      simpa [Factor.tokens] using h
    obtain ⟨rfl, hrest⟩ :=
      e.eq_of_tokens_append e' (stops_close 1 rest) (stops_close 1 rest') he
    exact ⟨rfl, (List.cons.inj hrest).2⟩
  | .operand t plain, .operand t' plain', rest, rest', h => by
    obtain ⟨rfl, hrest⟩ := List.cons.inj h
    exact ⟨rfl, hrest⟩
  | .minus _, .plus _, _, _, h | .minus _, .group _, _, _, h | .plus _, .minus _, _, _, h
  | .plus _, .group _, _, _, h | .group _, .minus _, _, _, h | .group _, .plus _, _, _, h =>
    absurd (List.cons.inj h).1 (by decide)
  | .operand t plain, .minus _, _, _, h | .operand t plain, .plus _, _, _, h
  | .operand t plain, .group _, _, _, h => by
    have := (List.cons.inj h).1
    subst this
    exact absurd plain (by decide)
  | .minus _, .operand t plain, _, _, h | .plus _, .operand t plain, _, _, h
  | .group _, .operand t plain, _, _, h => by
    have := (List.cons.inj h).1
    subst this
    exact absurd plain (by decide)

end

/-- **The grammar is unambiguous**: tokens are those of one tree at most. -/
theorem Expression.eq_of_tokens {e e' : Expression} (h : e.tokens = e'.tokens) : e = e' := by
  have h' : e.tokens ++ [] = e'.tokens ++ [] := by rw [h]
  exact (e.eq_of_tokens_append e' (stops_nil 1) (stops_nil 1) h').1

end SoundSheet.Formula
