import Mathlib.Data.List.DropRight
import Mathlib.Data.Prod.Lex
import Lexis.Diagnostic.Queue

/-!
# What a queue keeps

Whatever is emitted and flushed, and in whatever order, a queue holds what has been emitted since
the last flush, without the errors that arrived after the limit had been reached (`Keeps`,
`run_keeps`). Flushing hands that back ordered by position and stably, and starts anew. Of errors
that arrive in order of position, a queue therefore hands back the first ones.
-/

namespace Lexis

/-- Diagnostics are ordered by where they start, and then by where they end. -/
def Diagnostic.position (d : Diagnostic) : Nat ×ₗ Nat := toLex (d.span.start, d.span.stop)

namespace DiagnosticQueue

variable {limit : Nat} {q : DiagnosticQueue} {d : Diagnostic} {ds more : List Diagnostic}

/-- As many of the first ones as the limit admits; a limit of zero admits all. -/
def admitted (limit : Nat) (ds : List Diagnostic) : List Diagnostic :=
  if limit = 0 then ds else ds.take limit

/-- The limit admits nothing behind so many errors. -/
def Exhausted (limit errors : Nat) : Prop := limit ≠ 0 ∧ limit ≤ errors

instance (limit errors : Nat) : Decidable (Exhausted limit errors) := instDecidableAnd

/-- The diagnostics kept of those that have arrived, in order of arrival: all but the errors that
arrived when the limit was exhausted. -/
def kept (limit : Nat) (ds : List Diagnostic) : List Diagnostic :=
  (ds.zipIdx.filter fun arrival => ¬ (arrival.1.isError = true ∧
    Exhausted limit ((ds.take arrival.2).countP (·.isError)))).map Prod.fst

/-! ## Admission -/

theorem admitted_subset (limit : Nat) (ds : List Diagnostic) : admitted limit ds ⊆ ds := by
  unfold admitted
  split
  · exact List.Subset.refl ds
  · exact List.take_subset limit ds

theorem admitted_eq_nil_iff : admitted limit ds = [] ↔ ds = [] := by
  unfold admitted
  split
  · exact Iff.rfl
  · rename_i hlimit
    rw [List.take_eq_nil_iff, or_iff_right hlimit]

theorem length_admitted (limit : Nat) (ds : List Diagnostic) :
    (admitted limit ds).length = if limit = 0 then ds.length else min limit ds.length := by
  unfold admitted
  split
  · rfl
  · exact List.length_take

theorem exhausted_length_admitted_iff :
    Exhausted limit (admitted limit ds).length ↔ Exhausted limit ds.length := by
  rw [length_admitted]
  unfold Exhausted
  split <;> omega

theorem admitted_concat (limit : Nat) (ds : List Diagnostic) (d : Diagnostic) :
    admitted limit (ds ++ [d]) =
      admitted limit ds ++ if Exhausted limit ds.length then [] else [d] := by
  unfold admitted
  by_cases hlimit : limit = 0
  · simp [Exhausted, hlimit]
  · by_cases hfull : limit ≤ ds.length
    · simp [Exhausted, hlimit, hfull, List.take_append_of_le_length]
    · have hfits : (ds ++ [d]).length ≤ limit := by
        rw [List.length_append, List.length_singleton]
        omega
      rw [if_neg hlimit, if_neg hlimit, List.take_of_length_le hfits,
        List.take_of_length_le (by omega), if_neg (by simp [Exhausted, hfull])]

/-! ## What is kept -/

theorem kept_concat (limit : Nat) (ds : List Diagnostic) (d : Diagnostic) :
    kept limit (ds ++ [d]) =
      kept limit ds ++
        if d.isError = true ∧ Exhausted limit (ds.countP (·.isError)) then [] else [d] := by
  have hbefore : ∀ arrival ∈ ds.zipIdx, (ds ++ [d]).take arrival.2 = ds.take arrival.2 := by
    intro arrival hmem
    have hlt : arrival.2 < ds.length := (List.mem_zipIdx' hmem).1
    exact List.take_append_of_le_length (Nat.le_of_lt hlt)
  unfold kept
  rw [List.zipIdx_append, List.filter_append, List.map_append]
  congr 1
  · congr 1
    apply List.filter_congr
    intro arrival hmem
    simp only [hbefore arrival hmem]
  · have hlast : (ds ++ [d]).take ds.length = ds := List.take_left
    rw [List.zipIdx_singleton, Nat.zero_add, List.filter_singleton, hlast]
    by_cases hrefused : d.isError = true ∧ Exhausted limit (ds.countP (·.isError))
    · simp [hrefused]
    · simp [hrefused]

/-- Of the errors those that the limit admits are kept, and of all else everything. -/
theorem filter_kept (limit : Nat) (ds : List Diagnostic) :
    (kept limit ds).filter (·.isError) = admitted limit (ds.filter (·.isError)) ∧
      (kept limit ds).filter (!·.isError) = ds.filter (!·.isError) := by
  induction ds using List.reverseRecOn with
  | nil =>
    have hnone : admitted limit [] = [] := admitted_eq_nil_iff.2 rfl
    exact ⟨hnone.symm, rfl⟩
  | append_singleton ds d ih =>
    obtain ⟨herrors, hothers⟩ := ih
    rw [kept_concat, List.countP_eq_length_filter]
    by_cases herror : d.isError = true
    · have hlast : (ds ++ [d]).filter (·.isError) = ds.filter (·.isError) ++ [d] := by
        simp [herror]
      rw [hlast, admitted_concat, List.filter_append, List.filter_append, herrors, hothers]
      by_cases hfull : Exhausted limit (ds.filter (·.isError)).length
      · simp [herror, hfull]
      · simp [herror, hfull]
    · simp [herror, herrors, hothers]

theorem kept_of_forall_isError (h : ∀ d ∈ ds, d.isError = true) :
    kept limit ds = admitted limit ds := by
  have hall : ds.filter (·.isError) = ds := List.filter_eq_self.2 h
  obtain ⟨herrors, hothers⟩ := filter_kept limit ds
  have hnone : ds.filter (!·.isError) = [] := by
    simpa using h
  have hkept : (kept limit ds).filter (·.isError) = kept limit ds := by
    rw [hnone, List.filter_eq_nil_iff] at hothers
    exact List.filter_eq_self.2 fun d hd => by simpa using hothers d hd
  rw [← hkept, herrors, hall]

/-! ## Calls -/

/-- The queue holds what is kept of the given diagnostics, and its counters tell how many errors
that are and how many are missing. -/
structure Keeps (q : DiagnosticQueue) (limit : Nat) (ds : List Diagnostic) : Prop where
  errorLimit_eq : q.errorLimit = limit
  diagnostics_eq : q.diagnostics.toList = kept limit ds
  errorCount_eq : q.errorCount = (admitted limit (ds.filter (·.isError))).length
  dropped_add_eq : q.dropped + q.errorCount = (ds.filter (·.isError)).length

/-- What the user of a queue asks of it. -/
inductive Call where
  | emit (d : Diagnostic)
  | flush

def Call.emitted? : Call → Option Diagnostic
  | .emit d => some d
  | .flush => none

/-- The queue behind a call. -/
def call (q : DiagnosticQueue) : Call → DiagnosticQueue
  | .emit d => q.emit d
  | .flush => q.flush.2

/-- The queue behind calls one after another. -/
def run (q : DiagnosticQueue) (calls : List Call) : DiagnosticQueue := calls.foldl call q

/-- What has been emitted since the last flush. -/
def pending (calls : List Call) : List Diagnostic :=
  (calls.rtakeWhile (·.emitted?.isSome)).filterMap Call.emitted?

theorem keeps_fresh (limit : Nat) : Keeps { errorLimit := limit } limit [] := by
  have hnone : admitted limit [] = [] := admitted_eq_nil_iff.2 rfl
  exact ⟨rfl, rfl, (congrArg List.length hnone).symm, rfl⟩

namespace Keeps

theorem limitReached_iff (h : q.Keeps limit ds) :
    q.limitReached = true ↔ Exhausted limit (ds.filter (·.isError)).length := by
  rw [← exhausted_length_admitted_iff, ← h.errorCount_eq, ← h.errorLimit_eq, limitReached,
    Bool.and_eq_true, decide_eq_true_iff, decide_eq_true_iff, Nat.pos_iff_ne_zero]
  exact Iff.rfl

theorem emit (h : q.Keeps limit ds) (d : Diagnostic) : (q.emit d).Keeps limit (ds ++ [d]) := by
  have hlimit := h.limitReached_iff
  have hkept := kept_concat limit ds d
  rw [List.countP_eq_length_filter] at hkept
  by_cases herror : d.isError = true
  · have hlast : (ds ++ [d]).filter (·.isError) = ds.filter (·.isError) ++ [d] := by
      simp [herror]
    have hadmitted := admitted_concat limit (ds.filter (·.isError)) d
    by_cases hfull : Exhausted limit (ds.filter (·.isError)).length
    · have hemit : q.emit d = { q with dropped := q.dropped + 1 } := by
        simp [DiagnosticQueue.emit, herror, hlimit.2 hfull]
      rw [if_pos ⟨herror, hfull⟩, List.append_nil] at hkept
      rw [if_pos hfull, List.append_nil] at hadmitted
      rw [hemit]
      refine ⟨h.errorLimit_eq, hkept ▸ h.diagnostics_eq, ?_, ?_⟩
      · rw [hlast, hadmitted]
        exact h.errorCount_eq
      · rw [hlast, List.length_append, List.length_singleton, ← h.dropped_add_eq]
        exact Nat.add_right_comm q.dropped 1 q.errorCount
    · have hemit : q.emit d = { q with
          diagnostics := q.diagnostics.push d, errorCount := q.errorCount + 1 } := by
        simp [DiagnosticQueue.emit, herror, mt hlimit.1 hfull]
      rw [if_neg fun hrefused => hfull hrefused.2] at hkept
      rw [if_neg hfull] at hadmitted
      rw [hemit]
      refine ⟨h.errorLimit_eq, ?_, ?_, ?_⟩
      · rw [Array.toList_push, h.diagnostics_eq, hkept]
      · rw [hlast, hadmitted, List.length_append, List.length_singleton, ← h.errorCount_eq]
      · rw [hlast, List.length_append, List.length_singleton, ← h.dropped_add_eq]
        exact (Nat.add_assoc q.dropped q.errorCount 1).symm
  · have hemit : q.emit d = { q with diagnostics := q.diagnostics.push d } := by
      simp [DiagnosticQueue.emit, herror]
    have hsame : (ds ++ [d]).filter (·.isError) = ds.filter (·.isError) := by
      simp [herror]
    rw [if_neg fun hrefused => herror hrefused.1] at hkept
    rw [hemit]
    refine ⟨h.errorLimit_eq, ?_, ?_, ?_⟩
    · rw [Array.toList_push, h.diagnostics_eq, hkept]
    · rw [hsame]
      exact h.errorCount_eq
    · rw [hsame]
      exact h.dropped_add_eq

theorem flush_snd (h : q.Keeps limit ds) : q.flush.2 = { errorLimit := limit } := by
  rw [flush, h.errorLimit_eq]

theorem foldl_emit (h : q.Keeps limit ds) (more : List Diagnostic) :
    (more.foldl DiagnosticQueue.emit q).Keeps limit (ds ++ more) := by
  induction more generalizing q ds with
  | nil =>
    rw [List.append_nil]
    exact h
  | cons d more ih =>
    rw [List.foldl_cons, List.append_cons]
    exact ih (h.emit d)

end Keeps

/-- Each call leaves the queue with what has been emitted since the last flush. -/
theorem keeps_run (limit : Nat) (calls : List Call) :
    (run { errorLimit := limit } calls).Keeps limit (pending calls) := by
  induction calls using List.reverseRecOn with
  | nil => exact keeps_fresh limit
  | append_singleton calls last ih =>
    rw [run, List.foldl_concat, ← run]
    cases last with
    | emit d =>
      have hpending : pending (calls ++ [.emit d]) = pending calls ++ [d] := by
        rw [pending, List.rtakeWhile_concat_pos _ _ _ rfl, List.filterMap_append]
        rfl
      rw [hpending]
      exact ih.emit d
    | flush =>
      have hpending : pending (calls ++ [.flush]) = [] := by
        rw [pending, List.rtakeWhile_concat_neg _ _ _ Bool.false_ne_true]
        rfl
      rw [hpending, call, ih.flush_snd]
      exact keeps_fresh limit

/-! ## Order -/

theorem precedes_iff {a b : Diagnostic} : precedes a b = true ↔ a.position ≤ b.position := by
  simp [precedes, Diagnostic.position, Prod.Lex.toLex_le_toLex]

theorem precedes_trans (a b c : Diagnostic) (hab : precedes a b = true)
    (hbc : precedes b c = true) : precedes a c = true :=
  precedes_iff.2 (le_trans (precedes_iff.1 hab) (precedes_iff.1 hbc))

theorem precedes_total (a b : Diagnostic) : (precedes a b || precedes b a) = true := by
  rw [Bool.or_eq_true, precedes_iff, precedes_iff]
  exact le_total a.position b.position

theorem perm_flush (q : DiagnosticQueue) : q.flush.1.Perm q.diagnostics.toList :=
  List.mergeSort_perm _ _

theorem pairwise_flush (q : DiagnosticQueue) :
    q.flush.1.Pairwise fun a b => a.position ≤ b.position :=
  (List.pairwise_mergeSort precedes_trans precedes_total _).imp precedes_iff.1

/-- Diagnostics at the same position keep their order. -/
theorem filter_flush (q : DiagnosticQueue) (p : Nat ×ₗ Nat) :
    q.flush.1.filter (·.position = p) = q.diagnostics.toList.filter (·.position = p) := by
  let tied := q.diagnostics.toList.filter (·.position = p)
  have hposition : ∀ d ∈ tied, d.position = p := by
    intro d hd
    simpa using (List.mem_filter.1 hd).2
  have hsorted : tied.Pairwise fun a b => precedes a b = true := by
    apply List.pairwise_of_forall_mem_list
    intro a ha b hb
    rw [precedes_iff, hposition a ha, hposition b hb]
  -- The diagnostics at the position are in order already, so that sorting leaves them so.
  have hsublist : tied.Sublist q.flush.1 :=
    List.sublist_mergeSort precedes_trans precedes_total hsorted List.filter_sublist
  have hfiltered := hsublist.filter (·.position = p)
  rw [List.filter_eq_self.2 fun d hd => decide_eq_true (hposition d hd)] at hfiltered
  have hlength := ((perm_flush q).filter (·.position = p)).length_eq
  exact (hfiltered.eq_of_length hlength.symm).symm

theorem flush_of_increasing {ds : List Diagnostic} (limit : Nat) (h : ∀ d ∈ ds, d.isError = true)
    (hincreasing : ds.Pairwise fun a b => a.span.start < b.span.start) :
    (ds.foldl emit { errorLimit := limit }).flush.1 = admitted limit ds ∧
      (admitted limit ds).length + (ds.foldl emit { errorLimit := limit }).dropped = ds.length := by
  have hkeeps := (keeps_fresh limit).foldl_emit ds
  rw [List.nil_append] at hkeeps
  have hall : ds.filter (·.isError) = ds := List.filter_eq_self.2 h
  have hlist := hkeeps.diagnostics_eq.trans (kept_of_forall_isError h)
  have hcount := hkeeps.dropped_add_eq
  rw [hkeeps.errorCount_eq, hall, Nat.add_comm] at hcount
  have hsorted : (admitted limit ds).Pairwise fun a b => precedes a b = true := by
    have hprefix : (admitted limit ds).Pairwise fun a b => a.span.start < b.span.start := by
      unfold admitted
      split
      · exact hincreasing
      · exact hincreasing.sublist (List.take_sublist _ _)
    refine hprefix.imp ?_
    intro a b hlt
    simp [precedes, hlt]
  refine ⟨?_, hcount⟩
  rw [flush, hlist, List.mergeSort_of_pairwise hsorted]

/-- After any calls, a queue holds what has been emitted since the last flush, in order of arrival:
all warnings and notes, and the first errors, as many as the limit admits. The counters tell how
many errors are held and how many have been refused, and the limit has been reached when as many
are held as it says. A flush hands back what is held, ordered by position, those at the same
position in order of arrival, and leaves a queue that is empty but for its limit. -/
theorem run_keeps (limit : Nat) (calls : List Call) :
    let q := run { errorLimit := limit } calls
    let held := q.diagnostics.toList
    let errors := (pending calls).filter (·.isError)
    (held = kept limit (pending calls) ∧
      held.filter (!·.isError) = (pending calls).filter (!·.isError) ∧
      held.filter (·.isError) =
        if limit = 0 then errors else errors.take (min limit errors.length)) ∧
    q.errorCount = held.countP (·.isError) ∧
    q.dropped = errors.length - q.errorCount ∧ q.errorCount ≤ errors.length ∧
    (q.limitReached = true ↔ 0 < limit ∧ q.errorCount = limit) ∧
    (q.flush.1.Perm held ∧ q.flush.1.Pairwise (fun a b => a.position ≤ b.position) ∧
      ∀ p, q.flush.1.filter (·.position = p) = held.filter (·.position = p)) ∧
    q.flush.2 = { errorLimit := limit } := by
  intro q held errors
  have h : q.Keeps limit (pending calls) := keeps_run limit calls
  obtain ⟨herrors, hothers⟩ := filter_kept limit (pending calls)
  rw [← h.diagnostics_eq] at herrors hothers
  have hadmitted : admitted limit errors =
      if limit = 0 then errors else errors.take (min limit errors.length) := by
    rw [admitted, List.take_eq_take_min]
  have hcount : q.errorCount = held.countP (·.isError) := by
    rw [h.errorCount_eq, ← herrors, ← List.countP_eq_length_filter]
  have hsum : q.dropped + q.errorCount = errors.length := h.dropped_add_eq
  have hreached : q.limitReached = true ↔ 0 < limit ∧ q.errorCount = limit := by
    have hlength := length_admitted limit errors
    rw [← h.errorCount_eq] at hlength
    rw [h.limitReached_iff]
    show limit ≠ 0 ∧ limit ≤ errors.length ↔ _
    split at hlength <;> omega
  exact ⟨⟨h.diagnostics_eq, hothers, herrors.trans hadmitted⟩, hcount, by omega, by omega, hreached,
    ⟨perm_flush q, pairwise_flush q, filter_flush q⟩, h.flush_snd⟩

end DiagnosticQueue

end Lexis
