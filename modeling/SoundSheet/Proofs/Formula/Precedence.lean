import SoundSheet.Proofs.Formula.Grammar

/-!
# The evaluator keeps to the grammar

The evaluator of arithmetic reads tokens once and never builds a tree. It
computes the value of the tree all the same: on the tokens of an expression it
does what the expression says, operand by operand (`arithmetic_tokens`), and
tokens that are not those of an expression are refused (`arithmetic_fails_or`).

The first half follows the tree. In front of a part of the tree the evaluator
awaits an operand; behind it, it holds the value of that part as its last
operand and its frame is as before – up to operators that wait still and are
applied as soon as the next token is seen (`complete_waiting`). The second half
follows the tokens: whatever the evaluator has read without a fault is the
beginning of an expression, and the waiting operators say which one
(`Machine.Reads`).
-/

namespace SoundSheet.Formula

/-! ## From a state to the end -/

/-- **The result of the evaluator from a state on**. -/
def Machine.complete (operand : Token → Plan Float) (m : Machine) (tokens : List Token) :
    Plan Float :=
  (m.steps operand tokens).bind Machine.finish

section Complete

variable {operand : Token → Plan Float}

theorem complete_cons (m : Machine) (t : Token) (rest : List Token) :
    m.complete operand (t :: rest)
      = (m.step operand t).bind fun m => m.complete operand rest :=
  Plan.bind_bind _ _ _

/-- **What can follow a part of an expression**: the end, a closing parenthesis,
or an operator of rank `n` at most. -/
inductive Follows (n : Nat) : List Token → Prop
  | done : Follows n []
  | close (rest : List Token) : Follows n ([')'] :: rest)
  | operator (op : Operator) (h : op.rank ≤ n) (rest : List Token) :
      Follows n (op.token :: rest)

theorem Follows.mono {n k : Nat} {rest : List Token} (h : Follows n rest) (hnk : n ≤ k) :
    Follows k rest := by
  cases h with
  | done => exact .done
  | close rest => exact .close rest
  | operator op h rest => exact .operator op (Nat.le_trans h hnk) rest

theorem follows_factors (us : MoreFactors) {rest : List Token} (h : Follows 1 rest) :
    Follows 2 (us.tokens ++ rest) := by
  cases us with
  | none => exact h.mono (by decide)
  | more op strong u us => exact .operator op (Nat.le_of_eq strong.rank_eq) _

theorem follows_terms (ts : MoreTerms) {rest : List Token} (h : Follows 0 rest) :
    Follows 1 (ts.tokens ++ rest) := by
  cases ts with
  | none => exact h.mono (by decide)
  | more op weak t ts => exact .operator op (Nat.le_of_eq weak.rank_eq) _

/-- An operand token denotes no operator. -/
theorem IsOperand.ofToken?_eq_none {t : Token} (h : IsOperand t) :
    Operator.ofToken? t = none := by
  unfold Operator.ofToken?
  split
  · exact absurd h (by decide)
  · exact absurd h (by decide)
  · exact absurd h (by decide)
  · exact absurd h (by decide)
  · rfl

theorem ofToken?_token (op : Operator) : Operator.ofToken? op.token = some op := by
  cases op <;> rfl

/-- An operator token where an operator is expected. -/
theorem step_token (m : Machine) (h : m.awaiting = false) (op : Operator) :
    m.step operand op.token = m.pushOperator op := by
  have hopen : op.token ≠ ['('] := by cases op <;> decide
  have hclose : op.token ≠ [')'] := by cases op <;> decide
  rw [Machine.step, if_neg hopen, if_neg hclose, ofToken?_token]
  simp only [Machine.takeOperator, h, Bool.false_eq_true, if_false]

/-- An operand token where an operand is expected. -/
theorem step_operand {t : Token} (plain : IsOperand t) (operands : List Float)
    (frame : List Pending) (outer : List (List Pending)) :
    Machine.step operand ⟨operands, frame, outer, true⟩ t
      = (operand t).bind fun a => .done ⟨a :: operands, frame, outer, false⟩ := by
  have hopen : t ≠ ['('] := by rintro rfl; exact absurd plain (by decide)
  have hclose : t ≠ [')'] := by rintro rfl; exact absurd plain (by decide)
  rw [Machine.step, if_neg hopen, if_neg hclose, plain.ofToken?_eq_none]
  rfl

/-- **A waiting operator may be applied at once**, if whatever comes next binds
no tighter. -/
theorem complete_waiting {n : Nat} {p : Pending} (hp : n ≤ p.rank) {rest : List Token}
    (h : Follows n rest) (operands : List Float) (frame : List Pending)
    (outer : List (List Pending)) :
    Machine.complete operand ⟨operands, p :: frame, outer, false⟩ rest
      = (Plan.ofExcept (p.apply operands)).bind fun operands =>
          Machine.complete operand ⟨operands, frame, outer, false⟩ rest := by
  cases h with
  | done =>
    cases hop : p.apply operands with
    | ok operands' => simp [Machine.complete, Machine.steps, Machine.finish, Plan.bind,
        Plan.ofExcept, Pending.applyAll, hop]
    | error e => simp [Machine.complete, Machine.steps, Machine.finish, Plan.bind,
        Plan.ofExcept, Pending.applyAll, hop]
  | close rest =>
    cases hop : p.apply operands with
    | ok operands' => simp [complete_cons, Machine.step, Machine.closeGroup, Plan.bind,
        Plan.ofExcept, Pending.applyAll, hop]
    | error e => simp [complete_cons, Machine.step, Machine.closeGroup, Plan.bind,
        Plan.ofExcept, Pending.applyAll, hop]
  | operator op hop rest =>
    have hle : op.rank ≤ p.rank := Nat.le_trans hop hp
    cases hop : p.apply operands with
    | ok operands' => simp [complete_cons, step_token, Machine.pushOperator, Plan.bind,
        Plan.ofExcept, Pending.applyAll, hop, hle]
    | error e => simp [complete_cons, step_token, Machine.pushOperator, Plan.bind,
        Plan.ofExcept, Pending.applyAll, hop, hle]

/-! ## Along a tree -/

/-- A parenthesis opens where an operand is expected. -/
theorem complete_open (operands : List Float) (frame : List Pending)
    (outer : List (List Pending)) (rest : List Token) :
    Machine.complete operand ⟨operands, frame, outer, true⟩ (['('] :: rest)
      = Machine.complete operand ⟨operands, [], frame :: outer, true⟩ rest := by
  rw [complete_cons]
  rfl

/-- A parenthesis closes where nothing waits in it. -/
theorem complete_close (operands : List Float) (frame : List Pending)
    (outer : List (List Pending)) (rest : List Token) :
    Machine.complete operand ⟨operands, [], frame :: outer, false⟩ ([')'] :: rest)
      = Machine.complete operand ⟨operands, frame, outer, false⟩ rest := by
  rw [complete_cons]
  rfl

/-- An operator waits if what waits already binds less tightly. -/
theorem complete_operator (op : Operator) {operands : List Float} {frame : List Pending}
    (outer : List (List Pending)) (rest : List Token)
    (h : ∀ p ∈ frame, p.rank < op.rank) :
    Machine.complete operand ⟨operands, frame, outer, false⟩ (op.token :: rest)
      = Machine.complete operand ⟨operands, .binary op :: frame, outer, true⟩ rest := by
  rw [complete_cons, step_token _ rfl, Machine.pushOperator]
  cases frame with
  | nil => rfl
  | cons p frame =>
    have hp : ¬ op.rank ≤ p.rank := Nat.not_le.mpr (h p List.mem_cons_self)
    simp [List.takeWhile, List.dropWhile, hp, Pending.applyAll, Plan.bind]

/-- A binary operator that has both operands is applied. -/
theorem complete_binary {n : Nat} (op : Operator) (hop : n ≤ op.rank) {rest : List Token}
    (h : Follows n rest) (a b : Float) (operands : List Float) (frame : List Pending)
    (outer : List (List Pending)) :
    Machine.complete operand ⟨b :: a :: operands, .binary op :: frame, outer, false⟩ rest
      = (op.plan a b).bind fun c =>
          Machine.complete operand ⟨c :: operands, frame, outer, false⟩ rest := by
  rw [complete_waiting (p := .binary op) hop h, Pending.apply, Operator.plan]
  cases op.apply a b with
  | ok c => rfl
  | error e => rfl

mutual

/-- **On the tokens of an expression the evaluator does what the expression
says**, and goes on with its value as the last operand. -/
theorem Expression.complete : ∀ (e : Expression) {operands : List Float}
    {outer : List (List Pending)} {rest : List Token}, Follows 0 rest →
      Machine.complete operand ⟨operands, [], outer, true⟩ (e.tokens ++ rest)
        = (e.plan operand).bind fun a =>
            Machine.complete operand ⟨a :: operands, [], outer, false⟩ rest
  | .of t ts, operands, outer, rest, h => by
    rw [Expression.tokens, List.append_assoc,
      t.complete (by simp) (follows_terms ts h), Expression.plan, Expression.eval]
    refine Eq.trans (congrArg _ (funext fun a => ts.complete h)) ?_
    exact (Plan.bind_bind _ _ _).symm

/-- Further terms, behind a part of their expression. -/
theorem MoreTerms.complete : ∀ (ts : MoreTerms) {a : Float} {operands : List Float}
    {outer : List (List Pending)} {rest : List Token}, Follows 0 rest →
      Machine.complete operand ⟨a :: operands, [], outer, false⟩ (ts.tokens ++ rest)
        = (ts.eval Operator.plan operand a).bind fun b =>
            Machine.complete operand ⟨b :: operands, [], outer, false⟩ rest
  | .none, a, operands, outer, rest, h => rfl
  | .more op weak t ts, a, operands, outer, rest, h => by
    rw [MoreTerms.tokens, List.cons_append, List.append_assoc,
      complete_operator op _ _ (by simp),
      t.complete (by simp [Pending.rank, weak.rank_eq]) (follows_terms ts h), MoreTerms.eval]
    -- behind the second term the operator that waits is applied before anything else
    refine Eq.trans (congrArg _ (funext fun b => ?_)) (Plan.bind_bind _ _ _).symm
    rw [complete_binary op (Nat.le_of_eq weak.rank_eq.symm) (follows_terms ts h)]
    refine Eq.trans (congrArg _ (funext fun c => ts.complete h)) ?_
    exact (Plan.bind_bind _ _ _).symm

/-- A term, behind whatever binds less tightly than its operators. -/
theorem Term.complete : ∀ (t : Term) {operands : List Float} {frame : List Pending}
    {outer : List (List Pending)} {rest : List Token}, (∀ p ∈ frame, p.rank < 2) →
      Follows 1 rest →
      Machine.complete operand ⟨operands, frame, outer, true⟩ (t.tokens ++ rest)
        = (t.eval Operator.plan operand).bind fun a =>
            Machine.complete operand ⟨a :: operands, frame, outer, false⟩ rest
  | .of u us, operands, frame, outer, rest, hf, h => by
    rw [Term.tokens, List.append_assoc, u.complete (follows_factors us h), Term.eval]
    refine Eq.trans (congrArg _ (funext fun a => us.complete hf h)) ?_
    exact (Plan.bind_bind _ _ _).symm

/-- Further factors, behind a part of their term. -/
theorem MoreFactors.complete : ∀ (us : MoreFactors) {a : Float} {operands : List Float}
    {frame : List Pending} {outer : List (List Pending)} {rest : List Token},
      (∀ p ∈ frame, p.rank < 2) → Follows 1 rest →
      Machine.complete operand ⟨a :: operands, frame, outer, false⟩ (us.tokens ++ rest)
        = (us.eval Operator.plan operand a).bind fun b =>
            Machine.complete operand ⟨b :: operands, frame, outer, false⟩ rest
  | .none, a, operands, frame, outer, rest, hf, h => rfl
  | .more op strong u us, a, operands, frame, outer, rest, hf, h => by
    rw [MoreFactors.tokens, List.cons_append, List.append_assoc,
      complete_operator op _ _ (by rwa [strong.rank_eq]), u.complete (follows_factors us h),
      MoreFactors.eval]
    refine Eq.trans (congrArg _ (funext fun b => ?_)) (Plan.bind_bind _ _ _).symm
    rw [complete_binary op (Nat.le_of_eq strong.rank_eq.symm) (follows_factors us h)]
    refine Eq.trans (congrArg _ (funext fun c => us.complete hf h)) ?_
    exact (Plan.bind_bind _ _ _).symm

/-- A factor, behind anything. -/
theorem Factor.complete : ∀ (u : Factor) {operands : List Float} {frame : List Pending}
    {outer : List (List Pending)} {rest : List Token}, Follows 2 rest →
      Machine.complete operand ⟨operands, frame, outer, true⟩ (u.tokens ++ rest)
        = (u.eval Operator.plan operand).bind fun a =>
            Machine.complete operand ⟨a :: operands, frame, outer, false⟩ rest
  | .minus u, operands, frame, outer, rest, h => by
    rw [Factor.tokens, List.cons_append, complete_cons, Factor.eval]
    -- the sign waits for the factor behind it and is applied right after that
    refine Eq.trans (u.complete h) (Eq.trans (congrArg _ (funext fun a => ?_))
      (Plan.bind_bind _ _ _).symm)
    exact complete_waiting (p := .negate) (n := 2) (by decide) h _ _ _
  | .plus u, operands, frame, outer, rest, h => by
    rw [Factor.tokens, List.cons_append, complete_cons]
    exact u.complete h
  | .group e, operands, frame, outer, rest, h => by
    rw [Factor.tokens, List.cons_append, List.append_assoc, complete_open,
      List.singleton_append, e.complete (.close rest)]
    refine congrArg _ (funext fun a => ?_)
    exact complete_close _ _ _ _
  | .operand t plain, operands, frame, outer, rest, h => by
    rw [Factor.tokens, List.singleton_append, complete_cons, step_operand plain]
    exact Plan.bind_bind _ _ _

end

theorem Factor.tokens_ne_nil (u : Factor) : u.tokens ≠ [] := by
  cases u <;> exact List.cons_ne_nil _ _

theorem Expression.tokens_ne_nil (e : Expression) : e.tokens ≠ [] := by
  obtain ⟨⟨u, us⟩, ts⟩ := e
  rw [Expression.tokens, Term.tokens]
  simp [u.tokens_ne_nil]

/-- **On the tokens of an expression, arithmetic is the run of the
expression.** -/
theorem arithmetic_tokens (e : Expression) : arithmetic operand e.tokens = e.plan operand := by
  rw [arithmetic, if_neg e.tokens_ne_nil]
  have h : Machine.complete operand .start (e.tokens ++ [])
      = (e.plan operand).bind fun a => Machine.complete operand ⟨[a], [], [], false⟩ [] :=
    e.complete .done
  rw [List.append_nil] at h
  exact h.trans (Plan.bind_done _)

end Complete

/-! ## What has been read -/

/-- **The tokens of an expression up to the beginning of one of its terms**,
with the operator that waits there. -/
inductive TermStart : List Pending → List Token → Prop
  | first : TermStart [] []
  | later (e : Expression) (op : Operator) (weak : op.IsWeak) :
      TermStart [.binary op] (e.tokens ++ [op.token])

/-- **The tokens of an expression up to the beginning of one of its factors**,
with the operators that wait there. -/
inductive FactorStart : List Pending → List Token → Prop
  | first {frame : List Pending} {read : List Token} (start : TermStart frame read) :
      FactorStart frame read
  | later {frame : List Pending} {read : List Token} (start : TermStart frame read) (t : Term)
      (op : Operator) (strong : op.IsStrong) :
      FactorStart (.binary op :: frame) (read ++ t.tokens ++ [op.token])
  | minus {frame : List Pending} {read : List Token} (start : FactorStart frame read) :
      FactorStart (.negate :: frame) (read ++ [['-']])
  | plus {frame : List Pending} {read : List Token} (start : FactorStart frame read) :
      FactorStart frame (read ++ [['+']])

/-- **The tokens up to the innermost open parenthesis**, with the operators that
wait around it. -/
inductive GroupStart : List (List Pending) → List Token → Prop
  | outermost : GroupStart [] []
  | inside {outer : List (List Pending)} {before : List Token} {frame : List Pending}
      {read : List Token} (group : GroupStart outer before) (start : FactorStart frame read) :
      GroupStart (frame :: outer) (before ++ read ++ [['(']])

/-- **What the evaluator has read when it is in a state**: tokens up to the
beginning of a factor if it awaits an operand, and else that factor as well. -/
inductive Machine.Reads : Machine → List Token → Prop
  | awaiting {operands : List Float} {frame : List Pending} {outer : List (List Pending)}
      {before read : List Token} (group : GroupStart outer before)
      (start : FactorStart frame read) :
      Reads ⟨operands, frame, outer, true⟩ (before ++ read)
  | holding {operands : List Float} {frame : List Pending} {outer : List (List Pending)}
      {before read : List Token} (group : GroupStart outer before)
      (start : FactorStart frame read) (u : Factor) :
      Reads ⟨operands, frame, outer, false⟩ (before ++ (read ++ u.tokens))

/-! ## Closing what is open -/

/-- More factors, with one at the end. -/
def MoreFactors.snoc : MoreFactors → (op : Operator) → op.IsStrong → Factor → MoreFactors
  | .none, op, strong, u => .more op strong u .none
  | .more op' strong' u' rest, op, strong, u => .more op' strong' u' (rest.snoc op strong u)

/-- More terms, with one at the end. -/
def MoreTerms.snoc : MoreTerms → (op : Operator) → op.IsWeak → Term → MoreTerms
  | .none, op, weak, t => .more op weak t .none
  | .more op' weak' t' rest, op, weak, t => .more op' weak' t' (rest.snoc op weak t)

theorem MoreFactors.tokens_snoc : ∀ (us : MoreFactors) (op : Operator) (strong : op.IsStrong)
    (u : Factor), (us.snoc op strong u).tokens = us.tokens ++ op.token :: u.tokens
  | .none, op, strong, u => congrArg _ (List.append_nil _)
  | .more op' strong' u' us, op, strong, u => by
    rw [MoreFactors.snoc, MoreFactors.tokens, us.tokens_snoc op strong u, MoreFactors.tokens,
      List.cons_append, List.append_assoc]

theorem MoreTerms.tokens_snoc : ∀ (ts : MoreTerms) (op : Operator) (weak : op.IsWeak)
    (t : Term), (ts.snoc op weak t).tokens = ts.tokens ++ op.token :: t.tokens
  | .none, op, weak, t => congrArg _ (List.append_nil _)
  | .more op' weak' t' ts, op, weak, t => by
    rw [MoreTerms.snoc, MoreTerms.tokens, ts.tokens_snoc op weak t, MoreTerms.tokens,
      List.cons_append, List.append_assoc]

/-- A term goes on with a factor. -/
theorem Term.exists_snoc (t : Term) (op : Operator) (strong : op.IsStrong) (u : Factor) :
    ∃ t' : Term, t'.tokens = t.tokens ++ op.token :: u.tokens := by
  obtain ⟨u', us⟩ := t
  refine ⟨.of u' (us.snoc op strong u), ?_⟩
  rw [Term.tokens, us.tokens_snoc, Term.tokens, List.append_assoc]

/-- An expression goes on with a term. -/
theorem Expression.exists_snoc (e : Expression) (op : Operator) (weak : op.IsWeak) (t : Term) :
    ∃ e' : Expression, e'.tokens = e.tokens ++ op.token :: t.tokens := by
  obtain ⟨t', ts⟩ := e
  refine ⟨.of t' (ts.snoc op weak t), ?_⟩
  rw [Expression.tokens, ts.tokens_snoc, Expression.tokens, List.append_assoc]

/-- **A factor ends the term that it stands in**: what has been read is then a
whole term from the place where it begins, and the operators of rank two are
gone from those that wait. -/
theorem FactorStart.exists_term {frame : List Pending} {read : List Token}
    (h : FactorStart frame read) (u : Factor) :
    ∃ (read' : List Token) (t : Term), read ++ u.tokens = read' ++ t.tokens
      ∧ TermStart (frame.dropWhile fun p => decide (2 ≤ p.rank)) read' := by
  induction h generalizing u with
  | @first frame read start =>
    refine ⟨read, .of u .none, ?_, ?_⟩
    · rw [Term.tokens, MoreFactors.tokens, List.append_nil]
    · cases start with
      | first => exact .first
      | later e op weak => simpa [List.dropWhile, Pending.rank, weak.rank_eq] using .later e op weak
  | @later frame read start t op strong =>
    obtain ⟨t', ht'⟩ := t.exists_snoc op strong u
    refine ⟨read, t', by simp [ht'], ?_⟩
    rw [List.dropWhile_cons_of_pos (by simp [Pending.rank, strong.rank_eq])]
    cases start with
    | first => exact .first
    | later e op weak => simpa [List.dropWhile, Pending.rank, weak.rank_eq] using .later e op weak
  | minus _ ih =>
    -- a sign and the factor behind it are one factor
    obtain ⟨read', t, ht, hstart⟩ := ih (.minus u)
    refine ⟨read', t, by rw [← ht]; simp [Factor.tokens], ?_⟩
    rwa [List.dropWhile_cons_of_pos (by decide)]
  | plus _ ih =>
    obtain ⟨read', t, ht, hstart⟩ := ih (.plus u)
    exact ⟨read', t, by rw [← ht]; simp [Factor.tokens], hstart⟩

/-- **A factor ends the expression that it stands in.** -/
theorem FactorStart.exists_expression {frame : List Pending} {read : List Token}
    (h : FactorStart frame read) (u : Factor) :
    ∃ e : Expression, read ++ u.tokens = e.tokens := by
  obtain ⟨read', t, ht, hstart⟩ := h.exists_term u
  rw [ht]
  generalize (frame.dropWhile fun p => decide (2 ≤ p.rank)) = frame' at hstart
  cases hstart with
  | first => exact ⟨.of t .none, by simp [Expression.tokens, MoreTerms.tokens]⟩
  | later e op weak =>
    obtain ⟨e', he'⟩ := e.exists_snoc op weak t
    exact ⟨e', by simp [he']⟩

/-! ## One token after another -/

/-- How a step of the evaluator ends: with an error, or in a state that has read
the given tokens. -/
def EndsReading (read : List Token) (p : Plan Machine) : Prop :=
  (∃ e, p = .fail e) ∨ ∃ m : Machine, p = .done m ∧ m.Reads read

/-- An operator that has a token. -/
theorem eq_token_of_ofToken? {t : Token} {op : Operator} (h : Operator.ofToken? t = some op) :
    t = op.token := by
  unfold Operator.ofToken? at h
  split at h
  · exact Option.some.inj h ▸ rfl
  · exact Option.some.inj h ▸ rfl
  · exact Option.some.inj h ▸ rfl
  · exact Option.some.inj h ▸ rfl
  · exact nomatch h

/-- A token that is no parenthesis and no operator is an operand. -/
theorem isOperand_of_ofToken?_eq_none {t : Token} (hopen : t ≠ ['(']) (hclose : t ≠ [')'])
    (h : Operator.ofToken? t = none) : IsOperand t := by
  intro hmem
  simp only [List.mem_cons, List.not_mem_nil, or_false] at hmem
  rcases hmem with rfl | rfl | rfl | rfl | rfl | rfl
  · exact hopen rfl
  · exact hclose rfl
  all_goals exact nomatch h

/-- Every waiting operator binds at least as tightly as plus and minus. -/
theorem dropWhile_one_le_rank (frame : List Pending) :
    (frame.dropWhile fun p => decide (1 ≤ p.rank)) = [] := by
  induction frame with
  | nil => rfl
  | cons p frame ih =>
    have hp : 1 ≤ p.rank := by
      cases p with
      | negate => decide
      | binary op =>
        rcases op.isWeak_or_isStrong with h | h <;> simp [Pending.rank, h.rank_eq]
    rw [List.dropWhile_cons_of_pos (by simpa using hp), ih]

theorem endsReading_openGroup {m : Machine} {read : List Token} (h : m.Reads read) :
    EndsReading (read ++ [['(']]) m.openGroup := by
  cases h with
  | @awaiting operands frame outer before read group start =>
    refine .inr ⟨⟨operands, [], frame :: outer, true⟩, rfl, ?_⟩
    rw [← List.append_nil (before ++ read ++ [['(']])]
    exact .awaiting (group.inside start) (.first .first)
  | holding group start u => exact .inl ⟨_, rfl⟩

theorem endsReading_closeGroup {m : Machine} {read : List Token} (h : m.Reads read) :
    EndsReading (read ++ [[')']]) m.closeGroup := by
  cases h with
  | awaiting group start => exact .inl ⟨_, rfl⟩
  | @holding operands frame outer before read group start u =>
    rw [Machine.closeGroup, if_neg Bool.false_ne_true]
    cases Pending.applyAll frame operands with
    | error e => exact .inl ⟨e, rfl⟩
    | ok operands' =>
      cases group with
      | outermost => exact .inl ⟨_, rfl⟩
      | @inside outer before frame' read' group start' =>
        -- what stands in the parentheses is an expression, and so a factor in them
        obtain ⟨e, he⟩ := start.exists_expression u
        have hgroup : Machine.Reads ⟨operands', frame', outer, false⟩
            (before ++ (read' ++ (Factor.group e).tokens)) :=
          .holding group start' (.group e)
        refine .inr ⟨_, rfl, ?_⟩
        rw [he]
        simpa [Factor.tokens] using hgroup

theorem endsReading_pushOperator {operands : List Float} {frame : List Pending}
    {outer : List (List Pending)} {before read : List Token} (group : GroupStart outer before)
    (start : FactorStart frame read) (u : Factor) (op : Operator) :
    EndsReading (before ++ (read ++ u.tokens) ++ [op.token])
      (Machine.pushOperator ⟨operands, frame, outer, false⟩ op) := by
  rw [Machine.pushOperator]
  cases Pending.applyAll _ _ with
  | error e => exact .inl ⟨e, rfl⟩
  | ok operands' =>
    refine .inr ⟨_, rfl, ?_⟩
    rw [List.append_assoc]
    refine .awaiting group ?_
    rcases op.isWeak_or_isStrong with weak | strong
    · -- all that waits is applied, and what has been read is a whole expression
      obtain ⟨e, he⟩ := start.exists_expression u
      rw [he]
      simp only [weak.rank_eq, dropWhile_one_le_rank]
      exact .first (.later e op weak)
    · -- only signs, times and divide are applied, and the term becomes a whole one
      obtain ⟨read', t, ht, hstart⟩ := start.exists_term u
      rw [ht]
      simp only [strong.rank_eq]
      exact .later hstart t op strong

theorem endsReading_takeOperator {m : Machine} {read : List Token} (h : m.Reads read)
    (op : Operator) : EndsReading (read ++ [op.token]) (m.takeOperator op op.token) := by
  cases h with
  | awaiting group start =>
    unfold Machine.takeOperator
    rw [if_pos rfl, List.append_assoc]
    cases op with
    | add => exact .inr ⟨_, rfl, .awaiting group start.plus⟩
    | sub => exact .inr ⟨_, rfl, .awaiting group start.minus⟩
    | mul => exact .inl ⟨_, rfl⟩
    | div => exact .inl ⟨_, rfl⟩
  | holding group start u =>
    unfold Machine.takeOperator
    rw [if_neg Bool.false_ne_true]
    exact endsReading_pushOperator group start u op

theorem endsReading_takeOperand (f : Token → Except FormulaError Float) {m : Machine}
    {read : List Token} (h : m.Reads read) {t : Token} (plain : IsOperand t) :
    EndsReading (read ++ [t]) (m.takeOperand (fun t => Plan.ofExcept (f t)) t) := by
  cases h with
  | awaiting group start =>
    rw [Machine.takeOperand, if_pos rfl, List.append_assoc]
    cases f t with
    | error e => exact .inl ⟨e, rfl⟩
    | ok n => exact .inr ⟨_, rfl, .holding group start (.operand t plain)⟩
  | holding group start u => exact .inl ⟨_, rfl⟩

/-- **A step of the evaluator fails, or the token fits what has been read.** -/
theorem endsReading_step (f : Token → Except FormulaError Float) {m : Machine}
    {read : List Token} (h : m.Reads read) (t : Token) :
    EndsReading (read ++ [t]) (m.step (fun t => Plan.ofExcept (f t)) t) := by
  rw [Machine.step]
  by_cases hopen : t = ['(']
  · rw [if_pos hopen, hopen]
    exact endsReading_openGroup h
  by_cases hclose : t = [')']
  · rw [if_neg hopen, if_pos hclose, hclose]
    exact endsReading_closeGroup h
  rw [if_neg hopen, if_neg hclose]
  cases hop : Operator.ofToken? t with
  | some op =>
    rw [eq_token_of_ofToken? hop]
    exact endsReading_takeOperator h op
  | none => exact endsReading_takeOperand f h (isOperand_of_ofToken?_eq_none hopen hclose hop)

/-- **So do all steps together.** -/
theorem endsReading_steps (f : Token → Except FormulaError Float) (rest : List Token) :
    ∀ {m : Machine} {read : List Token}, m.Reads read →
      EndsReading (read ++ rest) (m.steps (fun t => Plan.ofExcept (f t)) rest) := by
  induction rest with
  | nil =>
    intro m read h
    rw [List.append_nil]
    exact .inr ⟨m, rfl, h⟩
  | cons t rest ih =>
    intro m read h
    rw [Machine.steps, List.append_cons]
    rcases endsReading_step f h t with ⟨e, he⟩ | ⟨m', hm', hread⟩
    · rw [he]
      exact .inl ⟨e, rfl⟩
    · rw [hm']
      exact ih hread

/-- **At the end the evaluator fails, or what it has read is an expression.** -/
theorem finish_fails_or {m : Machine} {read : List Token} (h : m.Reads read) :
    (∃ e, m.finish = .fail e) ∨ ∃ e : Expression, e.tokens = read := by
  cases h with
  | awaiting group start => exact .inl ⟨_, rfl⟩
  | @holding operands frame outer before read group start u =>
    rw [Machine.finish, if_neg Bool.false_ne_true]
    cases Pending.applyAll frame operands with
    | error e => exact .inl ⟨e, rfl⟩
    | ok operands' =>
      cases group with
      | outermost =>
        obtain ⟨e, he⟩ := start.exists_expression u
        exact .inr ⟨e, he.symm⟩
      | inside group start' => exact .inl ⟨_, rfl⟩

/-- **Tokens that are not those of an expression are refused.** -/
theorem arithmetic_fails_or (f : Token → Except FormulaError Float) (tokens : List Token) :
    (∃ e, arithmetic (fun t => Plan.ofExcept (f t)) tokens = .fail e)
      ∨ ∃ e : Expression, e.tokens = tokens := by
  rw [arithmetic]
  by_cases hnil : tokens = []
  · rw [if_pos hnil]
    exact .inl ⟨_, rfl⟩
  rw [if_neg hnil]
  have hstart : Machine.start.Reads ([] ++ []) := .awaiting .outermost (.first .first)
  rcases endsReading_steps f tokens hstart with ⟨e, he⟩ | ⟨m, hm, hread⟩
  · rw [he]
    exact .inl ⟨e, rfl⟩
  · rw [hm]
    exact finish_fails_or hread

/-! ## Known operands -/

/-- The end of one result after another. -/
theorem ofExcept_bind {α β : Type} (r : Except FormulaError α) (g : α → Except FormulaError β) :
    (Plan.ofExcept r).bind (fun a => Plan.ofExcept (g a)) = Plan.ofExcept (r >>= g) := by
  cases r <;> rfl

theorem Operator.plan_eq (op : Operator) (a b : Float) :
    op.plan a b = Plan.ofExcept (op.meaning a b) := by
  cases op <;> rfl

section Known

variable (f : Token → Except FormulaError Float)

mutual

/-- **With known operands the run of an expression is its value.** -/
theorem Expression.eval_ofExcept : ∀ e : Expression,
    e.eval Operator.plan (fun t => Plan.ofExcept (f t)) = Plan.ofExcept (e.eval Operator.meaning f)
  | .of t ts => by
    rw [Expression.eval, t.eval_ofExcept, Expression.eval, ← ofExcept_bind]
    exact congrArg _ (funext fun a => ts.eval_ofExcept a)

theorem MoreTerms.eval_ofExcept : ∀ (ts : MoreTerms) (a : Float),
    ts.eval Operator.plan (fun t => Plan.ofExcept (f t)) a
      = Plan.ofExcept (ts.eval Operator.meaning f a)
  | .none, _ => rfl
  | .more op _ t ts, a => by
    rw [MoreTerms.eval, t.eval_ofExcept, MoreTerms.eval, ← ofExcept_bind]
    refine congrArg _ (funext fun b => ?_)
    rw [← ofExcept_bind, ← Operator.plan_eq]
    exact congrArg _ (funext fun c => ts.eval_ofExcept c)

theorem Term.eval_ofExcept : ∀ t : Term,
    t.eval Operator.plan (fun t => Plan.ofExcept (f t)) = Plan.ofExcept (t.eval Operator.meaning f)
  | .of u us => by
    rw [Term.eval, u.eval_ofExcept, Term.eval, ← ofExcept_bind]
    exact congrArg _ (funext fun a => us.eval_ofExcept a)

theorem MoreFactors.eval_ofExcept : ∀ (us : MoreFactors) (a : Float),
    us.eval Operator.plan (fun t => Plan.ofExcept (f t)) a
      = Plan.ofExcept (us.eval Operator.meaning f a)
  | .none, _ => rfl
  | .more op _ u us, a => by
    rw [MoreFactors.eval, u.eval_ofExcept, MoreFactors.eval, ← ofExcept_bind]
    refine congrArg _ (funext fun b => ?_)
    rw [← ofExcept_bind, ← Operator.plan_eq]
    exact congrArg _ (funext fun c => us.eval_ofExcept c)

theorem Factor.eval_ofExcept : ∀ u : Factor,
    u.eval Operator.plan (fun t => Plan.ofExcept (f t)) = Plan.ofExcept (u.eval Operator.meaning f)
  | .minus u => by
    rw [Factor.eval, u.eval_ofExcept, Factor.eval, ← ofExcept_bind]
    rfl
  | .plus u => u.eval_ofExcept
  | .group e => e.eval_ofExcept
  | .operand _ _ => rfl

end

/-- Arithmetic on the tokens of an expression whose operands are known. -/
theorem arithmetic_tokens_known (e : Expression) :
    arithmetic (fun t => Plan.ofExcept (f t)) e.tokens = Plan.ofExcept (e.value f) :=
  (arithmetic_tokens e).trans (e.eval_ofExcept f)

end Known

/-- **Arithmetic computes exactly the standard grammar.** Whatever number or
error an operand stands for, arithmetic has the value `v` if and only if its
tokens are those of an expression whose value is `v`; there is at most one such
expression; and in every other case arithmetic fails. -/
theorem arithmetic_eq_done_iff (f : Token → Except FormulaError Float) (tokens : List Token) :
    (∀ v : Float, arithmetic (fun t => Plan.ofExcept (f t)) tokens = .done v
        ↔ ∃ e : Expression, e.tokens = tokens ∧ e.value f = .ok v)
      ∧ (∀ e e' : Expression, e.tokens = tokens → e'.tokens = tokens → e = e')
      ∧ ((¬∃ (e : Expression) (v : Float), e.tokens = tokens ∧ e.value f = .ok v) →
          ∃ error, arithmetic (fun t => Plan.ofExcept (f t)) tokens = .fail error) := by
  refine ⟨fun v => ⟨fun h => ?_, ?_⟩, fun e e' he he' => ?_, fun hno => ?_⟩
  · rcases arithmetic_fails_or f tokens with ⟨error, hfail⟩ | ⟨e, rfl⟩
    · rw [hfail] at h
      exact nomatch h
    · rw [arithmetic_tokens_known] at h
      refine ⟨e, rfl, ?_⟩
      cases hv : e.value f with
      | ok w => rw [hv] at h; cases h; rfl
      | error error => rw [hv] at h; exact nomatch h
  · rintro ⟨e, rfl, hv⟩
    rw [arithmetic_tokens_known, hv]
    rfl
  · exact Expression.eq_of_tokens (he.trans he'.symm)
  · rcases arithmetic_fails_or f tokens with hfail | ⟨e, rfl⟩
    · exact hfail
    · rw [arithmetic_tokens_known]
      cases hv : e.value f with
      | ok w => exact absurd ⟨e, w, rfl, hv⟩ hno
      | error error => exact ⟨error, rfl⟩

end SoundSheet.Formula
