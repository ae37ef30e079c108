import Lexis.Lexer.Session
import Lexis.Proofs.Lexer.Driven

/-!
# Following interpolations

A lexer that follows interpolations finds a token by one call or two, and its run is one such step
after another. The replies of a session tell the run (`Session.follows_of_replies`).
-/

namespace Lexis

theorem Interpolations.endsAt_iff {s : Interpolations} {t : Token} :
    s.endsAt t = true ↔ t.kind = .operator .closeBrace ∧ s.openBraces.head? = some 0 := by
  rw [endsAt, Bool.and_eq_true_iff, beq_iff_eq, beq_iff_eq]

namespace Lexer

variable {l l' l₁ l₂ m : Lexer} {s s₁ : Interpolations} {t last : Token} {tokens : List Token}

/-! ## Steps and runs -/

/-- What it takes to find a token: it comes next, or a template goes on there instead of the brace
that ends an interpolation. -/
inductive Finds (l : Lexer) (s : Interpolations) (t : Token) (l' : Lexer) : Prop
  | next (hnext : l.next = (.ok t, l')) (hends : s.endsAt t = false)
  | rescan {brace : Token} {l₁ : Lexer} (hnext : l.next = (.ok brace, l₁))
      (hends : s.endsAt brace = true) (hrescan : l₁.rescan brace = (.ok t, l'))

theorem nextFollowing_eq_ok_iff {s' : Interpolations} :
    l.nextFollowing s = (.ok t, l', s') ↔ l.Finds s t l' ∧ s' = s.after t := by
  constructor
  · intro h
    unfold nextFollowing at h
    split at h
    · cases h
    · rename_i hnext
      split at h
      · rename_i hends
        split at h
        · cases h
        · rename_i hrescan
          cases h
          exact ⟨.rescan hnext hends hrescan, rfl⟩
      · rename_i hends
        cases h
        exact ⟨.next hnext (eq_false_of_ne_true hends), rfl⟩
  · rintro ⟨hfinds, rfl⟩
    cases hfinds with
    | next hnext hends => simp only [nextFollowing, hnext, hends, Bool.false_eq_true, if_false]
    | rescan hnext hends hrescan => simp only [nextFollowing, hnext, hends, hrescan, if_true]

/-- Only the next call counts. -/
theorem Finds.congr (h : l.Finds s t l') (hnext : l.next = m.next) : m.Finds s t l' := by
  cases h with
  | next hfound hends => exact .next (hnext.symm.trans hfound) hends
  | rescan hfound hends hrescan => exact .rescan (hnext.symm.trans hfound) hends hrescan

/-- A step of a run that follows interpolations is a step of a driven run. -/
theorem Finds.exists_drive_eq (h : l.Finds s t l') : ∃ again, l.drive again = (.ok t, l') := by
  cases h with
  | next hnext => exact ⟨false, by simp [drive, hnext]⟩
  | rescan hnext hends hrescan =>
    have hkind := (Interpolations.endsAt_iff.1 hends).1
    exact ⟨true, by simp [drive, hnext, hkind, hrescan]⟩

/-- Following interpolations, the lexer finds the tokens one after another. -/
inductive Follows : Lexer → Interpolations → List Token → Lexer → Interpolations → Prop
  | nil (l : Lexer) (s : Interpolations) : Follows l s [] l s
  | cons {l l' l'' : Lexer} {s s'' : Interpolations} {t : Token} {tokens : List Token}
      (hfinds : l.Finds s t l') (hrunning : l'.isFinished = false)
      (hrest : Follows l' (s.after t) tokens l'' s'') : Follows l s (t :: tokens) l'' s''

theorem Follows.append {l'' : Lexer} {s'' : Interpolations} {more : List Token}
    (h : Follows l s tokens l₁ s₁) (h' : Follows l₁ s₁ more l'' s'') :
    Follows l s (tokens ++ more) l'' s'' := by
  induction h with
  | nil => exact h'
  | cons hfinds hrunning _ ih => exact .cons hfinds hrunning (ih h')

theorem Follows.congr (h : Follows l s tokens l₁ s₁) (hlast : l₁.Finds s₁ last l₂)
    (hnext : l.next = m.next) : ∃ m₁, Follows m s tokens m₁ s₁ ∧ m₁.Finds s₁ last l₂ := by
  cases h with
  | nil => exact ⟨m, .nil _ _, hlast.congr hnext⟩
  | cons hfirst hrunning hrest => exact ⟨l₁, .cons (hfirst.congr hnext) hrunning hrest, hlast⟩

end Lexer

namespace Session

variable {s s' : Session} {t last : Token} {l l₁ l₂ : Lexer} {open₁ : Interpolations}
  {tokens : List Token}

def ofSource (source : Source) (config : LexerConfig) : Session where
  lexer := Lexer.ofSource source config

/-- The session behind a token. -/
def behind (s : Session) (t : Token) (l : Lexer) : Session where
  lexer := l
  lastToken? := some t
  interpolations := s.interpolations.after t

theorem pull_of_finds (h : s.lexer.Finds s.interpolations t l) :
    s.pull .following = (.token t, s.behind t l) := by
  have hfound := Lexer.nextFollowing_eq_ok_iff.2 ⟨h, rfl⟩
  simp only [pull, hfound]
  rfl

theorem finds_of_pull (h : s.pull .following = (.token t, s')) :
    ∃ l, s.lexer.Finds s.interpolations t l ∧ s' = s.behind t l := by
  unfold pull at h
  cases hfound : s.lexer.nextFollowing s.interpolations with
  | mk result rest =>
    obtain ⟨l, counts⟩ := rest
    simp only [hfound] at h
    cases result with
    | error stop => cases h
    | ok t' =>
      cases h
      obtain ⟨hfinds, rfl⟩ := Lexer.nextFollowing_eq_ok_iff.1 hfound
      exact ⟨l, hfinds, rfl⟩

theorem pullAll_eq (s : Session) (how : Pull) :
    s.pullAll how = s.pull how :: match (s.pull how).1 with
      | .token _ =>
        if (s.pull how).2.lexer.isFinished then [] else (s.pull how).2.pullAll how
      | _ => [] := by
  rw [pullAll]
  split
  · rename_i hpull
    simp only [hpull]
    split <;> rfl
  · rename_i hother hpull
    simp only [hpull]

theorem pullAll_of_finds (h : s.lexer.Finds s.interpolations t l) :
    s.pullAll .following = (.token t, s.behind t l) ::
      if l.isFinished then [] else (s.behind t l).pullAll .following := by
  rw [pullAll_eq, pull_of_finds h]
  rfl

/-- A run to the end is told by its replies and by what is open then. -/
theorem replies_of_follows {s : Session} (h : s.lexer.Follows s.interpolations tokens l₁ open₁)
    (hlast : l₁.Finds open₁ last l₂) (hfinished : l₂.isFinished = true) :
    (s.pullAll .following).map Prod.fst = (tokens ++ [last]).map Reply.token := by
  generalize hl : s.lexer = l at h
  generalize hopen : s.interpolations = opened at h
  induction h generalizing s with
  | nil =>
    subst hl hopen
    rw [pullAll_of_finds hlast, hfinished]
    rfl
  | cons hfinds hrunning hrest ih =>
    subst hl hopen
    rw [pullAll_of_finds hfinds, hrunning]
    exact congrArg (_ :: ·) (ih hlast rfl rfl)

theorem exists_finds_of_replies {replies : List Reply}
    (h : (s.pullAll .following).map Prod.fst = .token t :: replies) :
    ∃ l, s.lexer.Finds s.interpolations t l ∧
      replies = if l.isFinished then [] else ((s.behind t l).pullAll .following).map Prod.fst := by
  have hreply := h
  rw [pullAll_eq] at hreply
  obtain ⟨l, hfinds, -⟩ := finds_of_pull (Prod.ext (List.cons.inj hreply).1 rfl)
  rw [pullAll_of_finds hfinds] at h
  refine ⟨l, hfinds, ?_⟩
  rw [← (List.cons.inj h).2]
  split <;> rfl

/-- Replies that are tokens only have been found one after another. -/
theorem follows_of_replies {s : Session} {counts : List Nat}
    (h : (s.pullAll .following).map Prod.fst = (tokens ++ [last]).map Reply.token)
    (hopen : (s.pullAll .following).getLast?.map (·.2.interpolations.openBraces) = some counts) :
    ∃ l₁ open₁ l₂, s.lexer.Follows s.interpolations tokens l₁ open₁ ∧ l₁.Finds open₁ last l₂ ∧
      (open₁.after last).openBraces = counts := by
  have hne : ∀ s : Session, (s.pullAll .following).map Prod.fst ≠ [] := by
    intro s
    rw [pullAll_eq]
    exact nofun
  induction tokens generalizing s with
  | nil =>
    obtain ⟨l, hfinds, hrest⟩ := exists_finds_of_replies h
    split at hrest
    · rename_i hfinished
      rw [pullAll_of_finds hfinds, if_pos hfinished] at hopen
      exact ⟨_, _, l, .nil _ _, hfinds, Option.some.inj hopen⟩
    · exact absurd hrest.symm (hne _)
  | cons t tokens ih =>
    obtain ⟨l, hfinds, hrest⟩ := exists_finds_of_replies h
    split at hrest
    · cases tokens <;> cases hrest
    · rename_i hrunning
      rw [pullAll_of_finds hfinds, if_neg hrunning, List.getLast?_cons_of_ne_nil] at hopen
      · obtain ⟨l₁, open₁, l₂, hfollows, hlast⟩ := ih hrest.symm hopen
        exact ⟨l₁, open₁, l₂, .cons hfinds (eq_false_of_ne_true hrunning) hfollows, hlast⟩
      · exact fun hnil => hne _ (congrArg (List.map Prod.fst) hnil)

end Session

end Lexis
