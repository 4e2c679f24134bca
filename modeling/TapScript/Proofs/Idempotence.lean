import Mathlib.Data.List.Chain
import TapScript.Proofs.NormalForm

/-! # Lines of a script as a source text

The texts of a script, one below the other, are a source text again, and the script of that source
has the same texts. Each text is a clause of its own, since it is normal, and no clause joins the
one before it, since a `{` that could have joined has done so the first time.

* `Line.IsNormal.clauses_eq` says that a normal text is its only clause.
* `Line.IsSettled` says that no brace is left to join the text before it;
  `Line.assembled_of_isSettled` says that then the clauses are the texts.
* `Line.ofSource_idempotent` is the main result. -/

namespace TapScript

namespace Line

open Text (Quoting)

/-! ## Normal texts are clauses -/

/-- A text that cannot be cut further is its only piece, but for what is left behind its `{`. -/
theorem IsUncut.cuts_eq {q : Quoting} {t : Text} (h : IsUncut q t) :
    cuts q t = [t] ∨ cuts q t = [t, []] := by
  induction t generalizing q with
  | nil => exact .inl (cuts_nil q)
  | cons c t ih =>
    cases hcut : q.isCode && isCut c with
    | true =>
      obtain ⟨hq, hc⟩ := Bool.and_eq_true_iff.1 hcut
      obtain ⟨rfl, rfl⟩ := h [] c t rfl hq hc
      rw [eq_code_of_isCode hq]
      exact .inr rfl
    | false =>
      have htail : IsUncut (q.step c) t := by
        intro u d v ht hcode hd
        exact h (c :: u) d v (by rw [ht, List.cons_append]) hcode hd
      rw [cuts_cons hcut]
      rcases ih htail with hcuts | hcuts
      · exact .inl (by rw [hcuts, List.modifyHead_cons])
      · exact .inr (by rw [hcuts, List.modifyHead_cons])

/-- A normal text is its only clause. -/
theorem IsNormal.clauses_eq {t : Text} (h : IsNormal t) : clauses t = [t] := by
  have hshown : shown [t] = [t] := by simp [shown, h.trimmed, h.ne_nil]
  rw [clauses, withoutComment_of_not_occurs h.noComment]
  rcases h.eq_closer_or_isUncut with rfl | huncut
  · rfl
  · rcases huncut.cuts_eq with hcuts | hcuts
    · rw [hcuts, hshown]
    · rw [hcuts, ← List.singleton_append, shown_append, hshown]
      rfl

/-- The clauses of normal texts that stand one below the other are these texts. -/
theorem sourceClauses_intercalate {ts : List Text} (h : ∀ t ∈ ts, IsNormal t) :
    sourceClauses (List.intercalate ['\n'] ts) = ts := by
  have hclauses : ∀ t ∈ ts, sourceClauses t = [t] := fun t ht => by
    rw [sourceClauses_of_not_mem (h t ht).oneRow, (h t ht).clauses_eq]
  induction ts with
  | nil => rfl
  | cons t ts ih =>
    cases ts with
    | nil => rw [List.intercalate_singleton, hclauses t (by simp)]
    | cons next ts =>
      have hrest := ih (fun t' ht' => h t' (List.mem_cons_of_mem _ ht')) fun t' ht' =>
        hclauses t' (List.mem_cons_of_mem _ ht')
      rw [List.intercalate_cons_cons, List.append_assoc, List.singleton_append,
        sourceClauses_newline, hrest, hclauses t (by simp), List.singleton_append]

/-! ## Settled texts -/

/-- No `{` stands alone behind a text that awaits it. -/
def IsSettled (ts : List Text) : Prop :=
  ts.IsChain fun previous t => t = ['{'] → awaitsBrace previous = false

/-- Settled texts are so with one more clause, since a brace that is awaited joins. -/
theorem isSettled_reverse_addClause {ts : List Text} (h : IsSettled ts.reverse) (c : Text) :
    IsSettled (addClause ts c).reverse := by
  rw [IsSettled, List.isChain_reverse] at h ⊢
  cases ts with
  | nil => exact .singleton c
  | cons previous rest =>
    rw [addClause]
    split
    · -- a text that has got a brace is longer than a brace
      refine List.isChain_cons.2 ⟨fun earlier _ hbrace => ?_, (List.isChain_cons.1 h).2⟩
      have hlength := congrArg List.length hbrace
      simp at hlength
    · rename_i hjoins
      refine List.isChain_cons_cons.2 ⟨fun hbrace => ?_, h⟩
      rwa [hbrace, beq_self_eq_true, Bool.true_and, Bool.not_eq_true] at hjoins

/-- The texts that clauses make are settled. -/
theorem isSettled_assembled (cs : List Text) : IsSettled (assembled cs) := by
  refine List.foldlRecOn cs addClause (motive := fun ts => IsSettled ts.reverse) ?_ ?_
  · exact List.IsChain.nil
  · intro ts hts c _
    exact isSettled_reverse_addClause hts c

/-- As long as the texts are settled, each further clause is a text of its own. -/
theorem foldl_addClause_of_isSettled {ts cs : List Text} (h : IsSettled (ts.reverse ++ cs)) :
    cs.foldl addClause ts = cs.reverse ++ ts := by
  induction cs generalizing ts with
  | nil => rfl
  | cons c cs ih =>
    have hadd : addClause ts c = c :: ts := by
      refine addClause_of_not_awaits fun previous hprevious => ?_
      exact (List.isChain_append.1 h).2.2 previous (List.getLast?_reverse.symm ▸ hprevious) c rfl
    rw [List.foldl_cons, hadd, ih (by rwa [List.reverse_cons, List.append_assoc]),
      List.reverse_cons, List.append_assoc]
    rfl

/-- Settled texts are what they make as clauses. -/
theorem assembled_of_isSettled {ts : List Text} (h : IsSettled ts) : assembled ts = ts := by
  rw [assembled, foldl_addClause_of_isSettled (by rwa [List.reverse_nil]), List.append_nil,
    List.reverse_reverse]

/-- The texts of a script, one below the other, are the source of a script with the same texts. -/
theorem ofSource_idempotent (source : Text) :
    (ofSource (List.intercalate ['\n'] ((ofSource source).map Line.text))).map Line.text =
      (ofSource source).map Line.text := by
  rw [map_text_ofSource (List.intercalate _ _), sourceClauses_intercalate
    fun t ht => isNormal_of_mem_texts ht, map_text_ofSource,
    assembled_of_isSettled (isSettled_assembled _)]

end Line

end TapScript
