import TapScript.Expression.Basic

/-! # The grammar of expressions

The reader of expressions goes through its tokens from left to right, and how deep it may go is
bounded by a number. This module says which tokens it accepts without speaking of either: those that
write an expression with parentheses where the grouping needs them, and with as many more as one
likes.

* `Expression.Renders` relates an expression to the tokens that write it in a place of a given rank.
* `Expression.parse?_eq_some_iff` says that the reader accepts exactly these tokens, and which
  expression it makes of them. -/

namespace TapScript

/-- The sign that stands for the operator. -/
def Operator.sign : Operator → Char
  | .add => '+'
  | .sub => '-'
  | .mul => '*'
  | .div => '/'
  | .rem => '%'

/-- How tightly the operator binds: sums have rank zero and products rank one. -/
def Operator.rank : Operator → Nat
  | .add | .sub => 0
  | .mul | .div | .rem => 1

namespace Expression

/-- The tokens write the expression in a place where only what binds at least as tightly as `place`
can stand without parentheses: zero is the place of a sum, one that of a product, two that of a
factor. An operator groups from the left, so its right operand stands in a tighter place than the
left one. Parentheses may be put around anything. -/
inductive Renders : (place : Nat) → Expression → List Token → Prop
  | number {place : Nat} (x : Float) : Renders place (.number x) [.number x]
  | literal {place : Nat} (t : Text) : Renders place (.literal t) [.literal t]
  | name {place : Nat} (t : Text) : Renders place (.name t) [.name t]
  | negate {place : Nat} {e : Expression} {ts : List Token} (h : Renders 2 e ts) :
    Renders place (.negate e) (.sign '-' :: ts)
  | binary {place : Nat} {op : Operator} {left right : Expression} {ls rs : List Token}
    (hplace : place ≤ op.rank) (hl : Renders op.rank left ls)
    (hr : Renders (op.rank + 1) right rs) :
    Renders place (.binary op left right) (ls ++ .sign op.sign :: rs)
  | wrap {place : Nat} {e : Expression} {ts : List Token} (h : Renders 0 e ts) :
    Renders place e (.sign '(' :: ts ++ [.sign ')'])

/-- What can stand in a tight place can stand in a looser one. -/
theorem Renders.loosen {place place' : Nat} {e : Expression} {ts : List Token}
    (h : Renders place e ts) (hle : place' ≤ place) : Renders place' e ts := by
  cases h with
  | number x => exact .number x
  | literal t => exact .literal t
  | name t => exact .name t
  | negate h => exact .negate h
  | binary hplace hl hr => exact .binary (Nat.le_trans hle hplace) hl hr
  | wrap h => exact .wrap h

/-- A token that adds is the sign of an operator of the lower rank. -/
theorem eq_sign_of_additive? {t : Token} {op : Operator} (h : additive? t = some op) :
    t = .sign op.sign ∧ op.rank = 0 := by
  unfold additive? at h
  split at h <;> cases h <;> exact ⟨rfl, rfl⟩

/-- A token that multiplies is the sign of an operator of the higher rank. -/
theorem eq_sign_of_multiplicative? {t : Token} {op : Operator} (h : multiplicative? t = some op) :
    t = .sign op.sign ∧ op.rank = 1 := by
  unfold multiplicative? at h
  split at h <;> cases h <;> exact ⟨rfl, rfl⟩

/-! ## What is accepted is written so -/

/-- What a reader takes off the tokens writes the expression that it makes of it. -/
def Sound (place : Nat) (read : List Token → Option (Expression × List Token)) : Prop :=
  ∀ ts e rest, read ts = some (e, rest) → ∃ us, ts = us ++ rest ∧ Renders place e us

/-- The same of a reader that goes on behind a first operand. -/
def SoundFrom (place : Nat) (onward : Expression → List Token → Option (Expression × List Token)) :
    Prop :=
  ∀ left ls ts e rest, Renders place left ls → onward left ts = some (e, rest) →
    ∃ us, ls ++ ts = us ++ rest ∧ Renders place e us

/-- The rest of a chain of operands: as long as an operator follows, the next operand is read. -/
def chain (operator? : Token → Option Operator)
    (next : List Token → Option (Expression × List Token))
    (onward : Expression → List Token → Option (Expression × List Token)) (left : Expression) :
    List Token → Option (Expression × List Token)
  | [] => some (left, [])
  | t :: ts =>
    match operator? t with
    | some op => do
      let (right, ts) ← next ts
      onward (binary op left right) ts
    | none => some (left, t :: ts)

/-- A sum is a chain of products. -/
theorem sumFrom?_succ (n : Nat) (left : Expression) (ts : List Token) :
    sumFrom? (n + 1) left ts = chain additive? (product? n) (sumFrom? n) left ts := by
  cases ts with
  | nil => rfl
  | cons t ts =>
    cases h : additive? t with
    | none => simp only [sumFrom?, chain, h]
    | some op => simp only [sumFrom?, chain, h]

/-- A product is a chain of factors. -/
theorem productFrom?_succ (n : Nat) (left : Expression) (ts : List Token) :
    productFrom? (n + 1) left ts = chain multiplicative? (factor? n) (productFrom? n) left ts := by
  cases ts with
  | nil => rfl
  | cons t ts =>
    cases h : multiplicative? t with
    | none => simp only [productFrom?, chain, h]
    | some op => simp only [productFrom?, chain, h]

section Sound

variable {place : Nat} {operator? : Token → Option Operator}
  {next : List Token → Option (Expression × List Token)}
  {onward : Expression → List Token → Option (Expression × List Token)}

/-- A first operand and a chain behind it. -/
theorem Sound.andThen (hnext : Sound (place + 1) next) (honward : SoundFrom place onward) :
    Sound place (fun ts => do
      let (left, ts) ← next ts
      onward left ts) := by
  intro ts e rest h
  simp only [Option.bind_eq_bind, Option.bind_eq_some_iff] at h
  obtain ⟨⟨left, middle⟩, hleft, hmore⟩ := h
  obtain ⟨ls, rfl, hl⟩ := hnext ts left middle hleft
  exact honward left ls middle e rest (hl.loosen (Nat.le_succ _)) hmore

/-- A chain of operators of the rank that belongs to the place. -/
theorem SoundFrom.chain (hop : ∀ t op, operator? t = some op → t = .sign op.sign ∧ op.rank = place)
    (hnext : Sound (place + 1) next) (honward : SoundFrom place onward) :
    SoundFrom place (chain operator? next onward) := by
  intro left ls ts e rest hl h
  cases ts with
  | nil =>
    cases h
    exact ⟨ls, rfl, hl⟩
  | cons t ts =>
    rw [Expression.chain] at h
    cases ht : operator? t with
    | some op =>
      obtain ⟨rfl, hrank⟩ := hop t op ht
      rw [ht] at h
      simp only [Option.bind_eq_bind, Option.bind_eq_some_iff] at h
      obtain ⟨⟨right, middle⟩, hright, hmore⟩ := h
      obtain ⟨rs, rfl, hr⟩ := hnext ts right middle hright
      subst hrank
      -- the operand joins what has been read so far
      obtain ⟨us, hus, he⟩ := honward _ _ middle e rest (.binary (Nat.le_refl _) hl hr) hmore
      exact ⟨us, by rw [← hus]; simp, he⟩
    | none =>
      rw [ht] at h
      cases h
      exact ⟨ls, rfl, hl⟩

end Sound

/-- A negation, and a sum in parentheses. -/
theorem Sound.factor {n : Nat} (hfactor : Sound 2 (factor? n)) (hsum : Sound 0 (sum? n)) :
    Sound 2 (factor? (n + 1)) := by
  intro ts e rest h
  rcases ts with _ | ⟨t, ts⟩
  · cases h
  cases t with
  | number x =>
    cases h
    exact ⟨[.number x], rfl, .number x⟩
  | literal t =>
    cases h
    exact ⟨[.literal t], rfl, .literal t⟩
  | name t =>
    cases h
    exact ⟨[.name t], rfl, .name t⟩
  | sign c =>
    -- of the signs, only a minus and an opening parenthesis begin a factor
    by_cases hminus : c = '-'
    · subst hminus
      simp only [factor?, Option.bind_eq_bind, Option.bind_eq_some_iff] at h
      obtain ⟨⟨f, middle⟩, hf, hmore⟩ := h
      cases hmore
      obtain ⟨us, rfl, hus⟩ := hfactor ts f _ hf
      exact ⟨.sign '-' :: us, rfl, .negate hus⟩
    · by_cases hopen : c = '('
      · subst hopen
        simp only [factor?, Option.bind_eq_bind, Option.bind_eq_some_iff] at h
        obtain ⟨⟨f, middle⟩, hf, hmore⟩ := h
        obtain ⟨us, rfl, hus⟩ := hsum ts f middle hf
        dsimp only at hmore
        split at hmore
        · cases hmore
          exact ⟨.sign '(' :: us ++ [.sign ')'], by simp, .wrap hus⟩
        · cases hmore
      · rw [factor?.eq_8 _ _ _ hminus hopen] at h
        cases h

/-- All five readers are sound, however deep they may go. -/
theorem sound (n : Nat) :
    Sound 0 (sum? n) ∧ SoundFrom 0 (sumFrom? n) ∧ Sound 1 (product? n) ∧
      SoundFrom 1 (productFrom? n) ∧ Sound 2 (factor? n) := by
  induction n with
  | zero =>
    refine ⟨?_, ?_, ?_, ?_, ?_⟩
    · exact fun _ _ _ h => nomatch h
    · exact fun _ _ _ _ _ _ h => nomatch h
    · exact fun _ _ _ h => nomatch h
    · exact fun _ _ _ _ _ _ h => nomatch h
    · exact fun _ _ _ h => nomatch h
  | succ n ih =>
    obtain ⟨hsum, hsumFrom, hproduct, hproductFrom, hfactor⟩ := ih
    refine ⟨?_, ?_, ?_, ?_, hfactor.factor hsum⟩
    · exact hproduct.andThen hsumFrom
    · rw [show sumFrom? (n + 1) = _ from funext fun left => funext (sumFrom?_succ n left)]
      exact .chain (fun _ _ => eq_sign_of_additive?) hproduct hsumFrom
    · exact hfactor.andThen hproductFrom
    · rw [show productFrom? (n + 1) = _ from funext fun left => funext (productFrom?_succ n left)]
      exact .chain (fun _ _ => eq_sign_of_multiplicative?) hfactor hproductFrom

/-! ## What is written so is accepted -/

/-- The tokens do not go on with an operator of this kind. -/
def Ends (operator? : Token → Option Operator) (ts : List Token) : Prop :=
  ∀ t ∈ ts.head?, operator? t = none

/-- The tokens are read as a factor, whatever follows. A level of the grammar costs one step, and a
token leads through three levels at most. -/
def ReadAsFactor (e : Expression) (ts : List Token) : Prop :=
  ∀ rest n, 3 * ts.length + 1 ≤ n → factor? n (ts ++ rest) = some (e, rest)

/-- Behind the tokens, the product that they are may go on. -/
def ReadAsProduct (e : Expression) (ts : List Token) : Prop :=
  ∀ rest n, 3 * ts.length + 2 ≤ n →
    ∃ m, n ≤ m + ts.length + 1 ∧ product? n (ts ++ rest) = productFrom? m e rest

/-- Behind the tokens, the sum that they are may go on. -/
def ReadAsSum (e : Expression) (ts : List Token) : Prop :=
  ∀ rest n, 3 * ts.length + 3 ≤ n → Ends multiplicative? rest →
    ∃ m, n ≤ m + ts.length + 1 ∧ sum? n (ts ++ rest) = sumFrom? m e rest

/-- A chain ends where no operator of its kind follows. -/
theorem chain_of_ends {operator? : Token → Option Operator}
    {next : List Token → Option (Expression × List Token)}
    {onward : Expression → List Token → Option (Expression × List Token)} {left : Expression}
    {ts : List Token} (h : Ends operator? ts) :
    chain operator? next onward left ts = some (left, ts) := by
  cases ts with
  | nil => rfl
  | cons t ts => rw [chain, h t rfl]

/-- A factor is a product. -/
theorem ReadAsFactor.asProduct {e : Expression} {ts : List Token} (h : ReadAsFactor e ts) :
    ReadAsProduct e ts := by
  intro rest n hn
  obtain ⟨n, rfl⟩ : ∃ k, n = k + 1 := ⟨n - 1, by omega⟩
  refine ⟨n, by omega, ?_⟩
  rw [product?, h rest n (by omega)]
  rfl

/-- A product is a sum. -/
theorem ReadAsProduct.asSum {e : Expression} {ts : List Token} (h : ReadAsProduct e ts) :
    ReadAsSum e ts := by
  intro rest n hn hends
  obtain ⟨n, rfl⟩ : ∃ k, n = k + 1 := ⟨n - 1, by omega⟩
  obtain ⟨m, hm, hread⟩ := h rest n (by omega)
  obtain ⟨m, rfl⟩ : ∃ k, m = k + 1 := ⟨m - 1, by omega⟩
  refine ⟨n, by omega, ?_⟩
  rw [sum?, hread, productFrom?_succ, chain_of_ends hends]
  rfl

/-- A factor more makes a longer product. -/
theorem ReadAsProduct.binary {op : Operator} {left right : Expression} {ls rs : List Token}
    (hop : multiplicative? (.sign op.sign) = some op) (hl : ReadAsProduct left ls)
    (hr : ReadAsFactor right rs) :
    ReadAsProduct (.binary op left right) (ls ++ .sign op.sign :: rs) := by
  intro rest n hn
  rw [List.length_append, List.length_cons] at hn ⊢
  obtain ⟨m, hm, hread⟩ := hl (.sign op.sign :: rs ++ rest) n (by omega)
  obtain ⟨m, rfl⟩ : ∃ k, m = k + 1 := ⟨m - 1, by omega⟩
  refine ⟨m, by omega, ?_⟩
  rw [List.append_assoc, hread, productFrom?_succ, List.cons_append, chain, hop]
  simp only [hr rest m (by omega), Option.bind_eq_bind, Option.bind_some]

/-- A product more makes a longer sum. -/
theorem ReadAsSum.binary {op : Operator} {left right : Expression} {ls rs : List Token}
    (hop : additive? (.sign op.sign) = some op) (hend : multiplicative? (.sign op.sign) = none)
    (hl : ReadAsSum left ls) (hr : ReadAsProduct right rs) :
    ReadAsSum (.binary op left right) (ls ++ .sign op.sign :: rs) := by
  intro rest n hn hrest
  rw [List.length_append, List.length_cons] at hn ⊢
  have hsign : Ends multiplicative? (.sign op.sign :: rs ++ rest) := by
    intro t ht
    cases ht
    exact hend
  obtain ⟨m, hm, hread⟩ := hl (.sign op.sign :: rs ++ rest) n (by omega) hsign
  obtain ⟨m, rfl⟩ : ∃ k, m = k + 1 := ⟨m - 1, by omega⟩
  obtain ⟨k, hk, hright⟩ := hr rest m (by omega)
  obtain ⟨k, rfl⟩ : ∃ j, k = j + 1 := ⟨k - 1, by omega⟩
  refine ⟨m, by omega, ?_⟩
  -- the product on the right stops where the sum goes on
  rw [List.append_assoc, hread, sumFrom?_succ, List.cons_append, chain, hop]
  simp only [hright, productFrom?_succ, chain_of_ends hrest, Option.bind_eq_bind, Option.bind_some]

/-- A factor with a minus sign in front is a factor. -/
theorem ReadAsFactor.negate {e : Expression} {ts : List Token} (h : ReadAsFactor e ts) :
    ReadAsFactor (.negate e) (.sign '-' :: ts) := by
  intro rest n hn
  rw [List.length_cons] at hn
  obtain ⟨n, rfl⟩ : ∃ k, n = k + 1 := ⟨n - 1, by omega⟩
  rw [List.cons_append, factor?, h rest n (by omega)]
  rfl

/-- A sum in parentheses is a factor. -/
theorem ReadAsSum.wrap {e : Expression} {ts : List Token} (h : ReadAsSum e ts) :
    ReadAsFactor e (.sign '(' :: ts ++ [.sign ')']) := by
  intro rest n hn
  rw [List.length_append, List.length_cons, List.length_singleton] at hn
  obtain ⟨n, rfl⟩ : ∃ k, n = k + 1 := ⟨n - 1, by omega⟩
  have hends : ∀ operator? ∈ [additive?, multiplicative?], Ends operator? (.sign ')' :: rest) := by
    intro operator? hmem t ht
    cases ht
    simp only [List.mem_cons, List.not_mem_nil, or_false] at hmem
    rcases hmem with rfl | rfl <;> rfl
  obtain ⟨m, hm, hread⟩ := h (.sign ')' :: rest) n (by omega) (hends _ (by simp))
  obtain ⟨m, rfl⟩ : ∃ k, m = k + 1 := ⟨m - 1, by omega⟩
  have happend : .sign '(' :: ts ++ [.sign ')'] ++ rest =
      .sign '(' :: (ts ++ .sign ')' :: rest) := by
    simp
  rw [happend, factor?, hread, sumFrom?_succ, chain_of_ends (hends _ (by simp))]
  rfl

/-- Tokens that write an expression are read as such in their place. -/
theorem Renders.read {place : Nat} {e : Expression} {ts : List Token} (h : Renders place e ts) :
    (2 ≤ place → ReadAsFactor e ts) ∧ (1 ≤ place → ReadAsProduct e ts) ∧ ReadAsSum e ts := by
  have hfactor : ∀ {place e ts}, ReadAsFactor e ts →
      (2 ≤ place → ReadAsFactor e ts) ∧ (1 ≤ place → ReadAsProduct e ts) ∧ ReadAsSum e ts :=
    fun h => ⟨fun _ => h, fun _ => h.asProduct, h.asProduct.asSum⟩
  have hatom : ∀ {e t}, (∀ n rest, factor? (n + 1) (t :: rest) = some (e, rest)) →
      ReadAsFactor e [t] := by
    intro e t hread rest n hn
    obtain ⟨n, rfl⟩ : ∃ k, n = k + 1 := ⟨n - 1, by omega⟩
    exact hread n rest
  induction h with
  | number x => exact hfactor (hatom fun _ _ => rfl)
  | literal t => exact hfactor (hatom fun _ _ => rfl)
  | name t => exact hfactor (hatom fun _ _ => rfl)
  | negate h ih => exact hfactor (ih.1 (Nat.le_refl _)).negate
  | wrap h ih => exact hfactor ih.2.2.wrap
  | @binary place op left right ls rs hplace hl hr ihl ihr =>
    -- an operator does not stand in the place of a factor, and only a product in that of a product
    have hproduct : op.rank = 1 → multiplicative? (.sign op.sign) = some op →
        (2 ≤ place → ReadAsFactor (.binary op left right) (ls ++ .sign op.sign :: rs)) ∧
        (1 ≤ place → ReadAsProduct (.binary op left right) (ls ++ .sign op.sign :: rs)) ∧
        ReadAsSum (.binary op left right) (ls ++ .sign op.sign :: rs) := by
      intro hrank hop
      have hread := ReadAsProduct.binary hop (ihl.2.1 (by omega)) (ihr.1 (by omega))
      exact ⟨fun hle => absurd hle (by omega), fun _ => hread, hread.asSum⟩
    have hsum : op.rank = 0 → additive? (.sign op.sign) = some op →
        multiplicative? (.sign op.sign) = none →
        (2 ≤ place → ReadAsFactor (.binary op left right) (ls ++ .sign op.sign :: rs)) ∧
        (1 ≤ place → ReadAsProduct (.binary op left right) (ls ++ .sign op.sign :: rs)) ∧
        ReadAsSum (.binary op left right) (ls ++ .sign op.sign :: rs) := by
      intro hrank hop hend
      have hread := ReadAsSum.binary hop hend ihl.2.2 (ihr.2.1 (by omega))
      exact ⟨fun hle => absurd hle (by omega), fun hle => absurd hle (by omega), hread⟩
    cases op with
    | add => exact hsum rfl rfl rfl
    | sub => exact hsum rfl rfl rfl
    | mul => exact hproduct rfl rfl
    | div => exact hproduct rfl rfl
    | rem => exact hproduct rfl rfl

/-- The tokens that are read as an expression are those that write it. -/
theorem parse?_eq_some_iff {ts : List Token} {e : Expression} :
    parse? ts = some e ↔ Renders 0 e ts := by
  constructor
  · intro h
    unfold parse? at h
    split at h
    · rename_i hsum
      cases h
      obtain ⟨us, hus, he⟩ := (sound _).1 ts e [] hsum
      rw [List.append_nil] at hus
      rw [hus]
      exact he
    · cases h
  · intro h
    obtain ⟨m, hm, hread⟩ := h.read.2.2 [] (4 * ts.length + 4) (by omega) (fun t ht => nomatch ht)
    obtain ⟨m, rfl⟩ : ∃ k, m = k + 1 := ⟨m - 1, by omega⟩
    rw [List.append_nil] at hread
    rw [parse?, hread]
    rfl

end Expression

end TapScript
