import Torsor.Web.ProjectionRefresh

/-! # Reads of projections

What holds of the reads of a window at any time: which of them is the newest of its family, what
the others saw before it was issued, and that what is shown of a projection reflects every read
that was shown since its selection was last left.
-/

namespace Torsor.Web

open Torsor.Library Torsor.Kernel

/-! ## Lists -/

theorem getElem?_modify_cases {α : Type} {l : List α} {n m : Nat} {f : α → α} {x : α}
    (h : (l.modify n f)[m]? = some x) :
    (m = n ∧ ∃ y, l[n]? = some y ∧ x = f y) ∨ (m ≠ n ∧ l[m]? = some x) := by
  by_cases hm : m = n
  · subst hm
    simp only [List.getElem?_modify_eq, Option.map_eq_map, Option.map_eq_some_iff] at h
    obtain ⟨y, hy, rfl⟩ := h
    exact .inl ⟨rfl, y, hy, rfl⟩
  · rw [List.getElem?_modify_ne f l (Ne.symm hm)] at h
    exact .inr ⟨hm, h⟩

theorem getElem?_concat_cases {α : Type} {l : List α} {m : Nat} {x y : α}
    (h : (l ++ [y])[m]? = some x) : l[m]? = some x ∨ (m = l.length ∧ x = y) := by
  rw [List.getElem?_append] at h
  split at h
  · exact .inl h
  · rename_i hm
    have hlen : m - l.length < 1 := (List.getElem?_eq_some_iff.mp h).1
    have hm' : m = l.length := by omega
    subst hm'
    simp at h
    exact .inr ⟨rfl, h.symm⟩

/-! ## What one read keeps -/

/-- What was said of a request when it was issued, and that it has been shown, if it has. -/
structure ProjectionRead.Continues (read read' : ProjectionRead) : Prop where
  key : read'.key = read.key
  kind : read'.kind = read.kind
  issuedAt : read'.issuedAt = read.issuedAt
  generation : read'.generation = read.generation
  applied : read.applied = true → read'.applied = true

theorem ProjectionRead.Continues.refl (read : ProjectionRead) : read.Continues read :=
  ⟨rfl, rfl, rfl, rfl, id⟩

theorem ProjectionRead.Continues.trans {read read' read'' : ProjectionRead}
    (h : read.Continues read') (h' : read'.Continues read'') : read.Continues read'' where
  key := h'.key.trans h.key
  kind := h'.kind.trans h.kind
  issuedAt := h'.issuedAt.trans h.issuedAt
  generation := h'.generation.trans h.generation
  applied happlied := h'.applied (h.applied happlied)

/-- The families that have one key, which is always shown. -/
def ProjectionFamily.always : ProjectionFamily → Bool
  | .runs | .attentionAgents | .bootstrap => true
  | _ => false

namespace WebView

/-- The window has made the request, and it is in this state. -/
def HasRead (s : WebView) (n : Nat) (read : ProjectionRead) : Prop := s.reads[n]? = some read

/-- What happens between two points of time. -/
structure Grows (s s' : WebView) : Prop where
  now : s'.now = s.now
  leftAt : ∀ key, s'.leftAt key = s.leftAt key ∨ s'.leftAt key = s.now
  selected : ∀ key, s.isSelected key = true → s'.isSelected key = true ∨ s'.leftAt key = s.now
  generation : ∀ family, s.generation family ≤ s'.generation family
  reads : ∀ n read, s.HasRead n read →
    ∃ read', s'.HasRead n read' ∧ read.Continues read'

namespace Grows

variable {s s' s'' : WebView}

theorem refl (s : WebView) : s.Grows s where
  now := rfl
  leftAt _ := .inl rfl
  selected _ hselected := .inl hselected
  generation _ := Nat.le_refl _
  reads _ read hread := ⟨read, hread, .refl read⟩

theorem trans (h : s.Grows s') (h' : s'.Grows s'') : s.Grows s'' where
  now := h'.now.trans h.now
  leftAt key := by
    have hfirst := h.leftAt key
    have hsecond := h'.leftAt key
    have hnow := h.now
    omega
  selected key hselected := by
    have hleft := h'.leftAt key
    have hnow := h.now
    cases h.selected key hselected with
    | inl hstill =>
        cases h'.selected key hstill with
        | inl hstill' => exact .inl hstill'
        | inr hleft' => exact .inr (hleft'.trans hnow)
    | inr hleft' => exact .inr (by omega)
  generation family := Nat.le_trans (h.generation family) (h'.generation family)
  reads n read hread := by
    obtain ⟨read', hread', hcontinues⟩ := h.reads n read hread
    obtain ⟨read'', hread'', hcontinues'⟩ := h'.reads n read' hread'
    exact ⟨read'', hread'', hcontinues.trans hcontinues'⟩

end Grows

/-! ## Handled events -/

/-- The selection of the key was left at the time or later, or a request for it that was issued
at the time or later has been shown. -/
def Handled (s : WebView) (key : ProjectionKey) (time : Nat) : Prop :=
  time ≤ s.leftAt key ∨
    ∃ n read, s.HasRead n read ∧ read.key = key ∧ read.applied = true ∧ time ≤ read.issuedAt

/-- A read of the key that was issued at the time or later. -/
def ReadSince (s : WebView) (key : ProjectionKey) (time n : Nat) : Prop :=
  ∃ read, s.HasRead n read ∧ read.key = key ∧ read.kind.isBeside = false ∧
    time ≤ read.issuedAt

variable {s s' : WebView} {key : ProjectionKey} {time time' n : Nat}

theorem Handled.mono (h : s.Handled key time) (hgrows : s.Grows s')
    (hleft : s.leftAt key ≤ s.now) : s'.Handled key time := by
  cases h with
  | inl hleft' =>
      have hcases := hgrows.leftAt key
      exact .inl (by omega)
  | inr hshown =>
      obtain ⟨n, read, hread, hkey, happlied, hissued⟩ := hshown
      obtain ⟨read', hread', hcontinues⟩ := hgrows.reads n read hread
      refine .inr ⟨n, read', hread', hcontinues.key.trans hkey, hcontinues.applied happlied, ?_⟩
      rw [hcontinues.issuedAt]
      exact hissued

theorem Handled.of_le (h : s.Handled key time') (hle : time ≤ time') : s.Handled key time := by
  cases h with
  | inl hleft => exact .inl (by omega)
  | inr hshown =>
      obtain ⟨n, read, hread, hkey, happlied, hissued⟩ := hshown
      exact .inr ⟨n, read, hread, hkey, happlied, by omega⟩

theorem ReadSince.mono (h : s.ReadSince key time n) (hgrows : s.Grows s') :
    s'.ReadSince key time n := by
  obtain ⟨read, hread, hkey, hkind, hissued⟩ := h
  obtain ⟨read', hread', hcontinues⟩ := hgrows.reads n read hread
  refine ⟨read', hread', hcontinues.key.trans hkey, ?_, ?_⟩
  · rw [hcontinues.kind]
    exact hkind
  · rw [hcontinues.issuedAt]
    exact hissued

/-! ## The invariant of the reads -/

structure ReadOk (s : WebView) (read : ProjectionRead) : Prop where
  issued : read.issuedAt ≤ s.now
  served : ∀ time, read.readAt = some time → read.issuedAt ≤ time ∧ time ≤ s.now
  applied : read.applied = true →
    read.state = .settled true ∧ read.kind.isBeside = false ∧ read.readAt.isSome = true
  fetched : read.state = .fetched true → read.readAt.isSome = true
  generation : read.kind.isBeside = false → read.generation ≤ s.generation read.key.family
  beside : read.kind.isBeside = true → read.key.family = .thread
  handled : read.kind.isBeside = false → read.state = .settled true →
    s.Handled read.key read.issuedAt
  follows : read.kind.isBeside = false → ∀ m,
    read.state = .awaiting m ∨ read.state = .returning m →
    s.ReadSince read.key read.issuedAt m

/-- The read is the newest of its family. -/
def Newest (s : WebView) (read : ProjectionRead) : Prop :=
  read.kind.isBeside = false ∧ read.generation = s.generation read.key.family

/-- A family selects keys of its own, and one without a selection always has its key. -/
structure SelectsOwn (s : WebView) : Prop where
  own : ∀ family key, s.selected family = some key → key.family = family
  always : ∀ family, family.always = true → (s.selected family).isSome = true

structure ReadsInv (server : ServerState) (s : WebView) : Prop where
  own : s.SelectsOwn
  left : ∀ key, s.leftAt key ≤ s.now
  each : ∀ n read, s.HasRead n read → s.ReadOk read
  unique : ∀ n m read other, s.HasRead n read → s.HasRead m other →
    s.Newest read → s.Newest other → read.key.family = other.key.family → n = m
  newest : ∀ n m read other, s.HasRead n read → s.HasRead m other →
    s.Newest read → other.applied = true → other.key = read.key → m ≠ n →
    ∀ time, other.readAt = some time → time ≤ read.issuedAt
  covers : ∀ n read time, s.HasRead n read → read.applied = true →
    s.leftAt read.key < read.issuedAt → read.readAt = some time →
    ∃ shown, s.shown read.key = some shown ∧ shown.reflects time
  shownRun : ∀ runId shown, s.shown (.run runId) = some shown →
    ∃ n read time, s.HasRead n read ∧ read.key = .run runId ∧ read.applied = true ∧
      read.readAt = some time ∧ shown = server.read (.run runId) time

/-- The latest request of a key, beside the selection only where the key is not selected. -/
structure LatestInv (s : WebView) : Prop where
  latest : ∀ key m, s.latest key = some m →
    ∃ read, s.HasRead m read ∧ read.key = key ∧
      (s.isSelected key = true → read.kind.isBeside = false) ∧
      ∀ n other, s.HasRead n other → other.key = key → other.issuedAt ≤ read.issuedAt

variable {server : ServerState} {read read' : ProjectionRead}

theorem ReadOk.mono (h : s.ReadOk read) (hgrows : s.Grows s')
    (hleft : s.leftAt read.key ≤ s.now) : s'.ReadOk read where
  issued := hgrows.now ▸ h.issued
  served := hgrows.now ▸ h.served
  applied := h.applied
  fetched := h.fetched
  generation hkind := Nat.le_trans (h.generation hkind) (hgrows.generation _)
  beside := h.beside
  handled hkind hstate := (h.handled hkind hstate).mono hgrows hleft
  follows hkind m hstate := (h.follows hkind m hstate).mono hgrows

theorem ServerState.read_reflects (key : ProjectionKey) (h : time ≤ time') :
    (server.read key time').reflects time := by
  refine ⟨h, ?_⟩
  intro item hitem
  have hreadAt : item.readAt = time' := by
    cases key <;> simp [ServerState.read] at hitem
    · obtain ⟨threadId, -, rfl⟩ := hitem
      rfl
    · rw [hitem]
      rfl
    · rw [hitem]
      rfl
    · obtain ⟨runId, -, rfl⟩ := hitem
      rfl
  omega

theorem Grows.left (hgrows : s.Grows s') (h : ∀ key, s.leftAt key ≤ s.now) :
    ∀ key, s'.leftAt key ≤ s'.now := by
  intro key
  have hleft := h key
  have hcases := hgrows.leftAt key
  have hnow := hgrows.now
  omega

/-! ## Changes that show nothing new -/

theorem Newest.of_continues (h : s.Newest read') (hcontinues : read.Continues read') :
    s.Newest read := by
  obtain ⟨hkind, hgeneration⟩ := h
  rw [hcontinues.kind] at hkind
  rw [hcontinues.generation, hcontinues.key] at hgeneration
  exact ⟨hkind, hgeneration⟩

/-- Each read was there before; what has been shown of it is as it was. -/
def ReadsFrom (s s' : WebView) : Prop :=
  ∀ n read', s'.HasRead n read' →
    ∃ read, s.HasRead n read ∧ read.Continues read' ∧ (read'.applied = true → read' = read)

/-- Each read was there before. -/
def ContinuesFrom (s s' : WebView) : Prop :=
  ∀ n read', s'.HasRead n read' → ∃ read, s.HasRead n read ∧ read.Continues read'

theorem ReadsFrom.continues (h : s.ReadsFrom s') : s.ContinuesFrom s' := by
  intro n read' hread'
  obtain ⟨read, hread, hcontinues, -⟩ := h n read' hread'
  exact ⟨read, hread, hcontinues⟩

/-- What is shown of a key stays, or it goes as the key is left. -/
def ShownFrom (s s' : WebView) : Prop :=
  ∀ key, s'.shown key = s.shown key ∨ (s'.shown key = none ∧ s'.leftAt key = s.now)

theorem ReadsInv.evolve (h : ReadsInv server s) (hgrows : s.Grows s') (hreads : s.ReadsFrom s')
    (hshown : s.ShownFrom s') (hown : s'.SelectsOwn)
    (hnewest : ∀ n read, s.HasRead n read → s'.Newest read → s.Newest read)
    (heach : ∀ n read', s'.HasRead n read' → s'.ReadOk read') : ReadsInv server s' where
  own := hown
  left := hgrows.left h.left
  each := heach
  unique n m read' other' hread' hother' hn hm hfamily := by
    obtain ⟨read, hread, hcontinues, -⟩ := hreads n read' hread'
    obtain ⟨other, hother, hcontinues', -⟩ := hreads m other' hother'
    apply h.unique n m read other hread hother
    · exact hnewest n read hread (hn.of_continues hcontinues)
    · exact hnewest m other hother (hm.of_continues hcontinues')
    · rw [← hcontinues.key, ← hcontinues'.key]
      exact hfamily
  newest n m read' other' hread' hother' hn happlied hkey hne time htime := by
    obtain ⟨read, hread, hcontinues, -⟩ := hreads n read' hread'
    obtain ⟨other, hother, hcontinues', hsame⟩ := hreads m other' hother'
    have hsame' := hsame happlied
    subst hsame'
    rw [hcontinues.issuedAt]
    refine h.newest n m read other' hread hother ?_ happlied ?_ hne time htime
    · exact hnewest n read hread (hn.of_continues hcontinues)
    · rw [hkey, hcontinues.key]
  covers n read' time hread' happlied hleft htime := by
    obtain ⟨read, hread, -, hsame⟩ := hreads n read' hread'
    have hsame' := hsame happlied
    subst hsame'
    have hissued := (h.each n read' hread).issued
    have hnow := hgrows.now
    cases hshown read'.key with
    | inl hstays =>
        rw [hstays]
        apply h.covers n read' time hread happlied _ htime
        have hcases := hgrows.leftAt read'.key
        omega
    | inr hgoes => omega
  shownRun runId shown hshown' := by
    cases hshown (.run runId) with
    | inl hstays =>
        rw [hstays] at hshown'
        obtain ⟨n, read, time, hread, hkey, happlied, htime, heq⟩ := h.shownRun runId shown hshown'
        obtain ⟨read', hread', hcontinues⟩ := hgrows.reads n read hread
        have happlied' := hcontinues.applied happlied
        obtain ⟨read₀, hread₀, -, hsame⟩ := hreads n read' hread'
        have hsame' := hsame happlied'
        subst hsame'
        have heq' : read' = read := Option.some.inj (hread₀.symm.trans hread)
        subst heq'
        exact ⟨n, read', time, hread', hkey, happlied, htime, heq⟩
    | inr hgoes =>
        rw [hgoes.1] at hshown'
        cases hshown'

theorem LatestInv.evolve (h : LatestInv s) (hgrows : s.Grows s') (hreads : s.ContinuesFrom s')
    (hlatest : s'.latest = s.latest)
    (hselected : ∀ key, s'.isSelected key = true → s.isSelected key = true) : LatestInv s' where
  latest key m hm := by
    rw [hlatest] at hm
    obtain ⟨read, hread, hkey, hbeside, hissued⟩ := h.latest key m hm
    obtain ⟨read', hread', hcontinues⟩ := hgrows.reads m read hread
    refine ⟨read', hread', hcontinues.key.trans hkey, ?_, ?_⟩
    · intro hselected'
      rw [hcontinues.kind]
      exact hbeside (hselected key hselected')
    · intro n other' hother' hkey'
      obtain ⟨other, hother, hcontinues'⟩ := hreads n other' hother'
      rw [hcontinues'.issuedAt, hcontinues.issuedAt]
      exact hissued n other hother (hcontinues'.key.symm.trans hkey')

/-! ### A read changes its state -/

section Modify

variable {f : ProjectionRead → ProjectionRead}

theorem Grows.modify (hread : s.HasRead n read) (hf : read.Continues (f read)) :
    s.Grows { s with reads := s.reads.modify n f } where
  now := rfl
  leftAt _ := .inl rfl
  selected _ hselected := .inl hselected
  generation _ := Nat.le_refl _
  reads m other hother := by
    by_cases hm : m = n
    · subst hm
      have heq : read = other := Option.some.inj (hread.symm.trans hother)
      subst heq
      refine ⟨f read, ?_, hf⟩
      simp only [HasRead, List.getElem?_modify_eq, Option.map_eq_map, Option.map_eq_some_iff]
      exact ⟨read, hread, rfl⟩
    · refine ⟨other, ?_, .refl other⟩
      simp only [HasRead]
      rw [List.getElem?_modify_ne f _ (Ne.symm hm)]
      exact hother

theorem ReadsFrom.modify (hread : s.HasRead n read) (hf : read.Continues (f read))
    (happlied : (f read).applied = false) :
    s.ReadsFrom { s with reads := s.reads.modify n f } := by
  intro m other' hother'
  cases getElem?_modify_cases hother' with
  | inl hhere =>
      obtain ⟨rfl, other, hother, rfl⟩ := hhere
      have heq : read = other := Option.some.inj (hread.symm.trans hother)
      subst heq
      refine ⟨read, hread, hf, ?_⟩
      intro happlied'
      rw [happlied] at happlied'
      cases happlied'
  | inr helsewhere => exact ⟨other', helsewhere.2, .refl other', fun _ => rfl⟩

theorem ReadsInv.modify (h : ReadsInv server s) (hread : s.HasRead n read)
    (hf : read.Continues (f read)) (happlied : (f read).applied = false)
    (hok : s.ReadOk (f read)) :
    ReadsInv server { s with reads := s.reads.modify n f } := by
  have hgrows := Grows.modify hread hf
  apply h.evolve hgrows (.modify hread hf happlied) (fun _ => .inl rfl) { h.own with }
    (fun _ _ _ hn => hn)
  intro m other' hother'
  cases getElem?_modify_cases hother' with
  | inl hhere =>
      obtain ⟨rfl, other, hother, rfl⟩ := hhere
      have heq : read = other := Option.some.inj (hread.symm.trans hother)
      subst heq
      exact hok.mono hgrows (h.left _)
  | inr helsewhere => exact (h.each m other' helsewhere.2).mono hgrows (h.left _)

theorem ContinuesFrom.modify (hread : s.HasRead n read) (hf : read.Continues (f read)) :
    s.ContinuesFrom { s with reads := s.reads.modify n f } := by
  intro m other' hother'
  cases getElem?_modify_cases hother' with
  | inl hhere =>
      obtain ⟨rfl, other, hother, rfl⟩ := hhere
      have heq : read = other := Option.some.inj (hread.symm.trans hother)
      subst heq
      exact ⟨read, hread, hf⟩
  | inr helsewhere => exact ⟨other', helsewhere.2, .refl other'⟩

theorem LatestInv.modify (h : LatestInv s) (hread : s.HasRead n read)
    (hf : read.Continues (f read)) : LatestInv { s with reads := s.reads.modify n f } :=
  h.evolve (.modify hread hf) (.modify hread hf) rfl fun _ hselected => hselected

end Modify

/-! ### Keys are left -/

theorem isSelected_iff : s.isSelected key = true ↔ s.selected key.family = some key := by
  simp [isSelected]

@[simp] theorem setDeferred_now (d : Nat) (value : Deferred) :
    (s.setDeferred d value).now = s.now := rfl

theorem leave_eq (key : ProjectionKey) (s : WebView) :
    ∃ refreshes deferreds, s.leave key =
      { s with
        invalidations := Function.update s.invalidations key none
        shown := Function.update s.shown key none
        leftAt := Function.update s.leftAt key s.now
        refreshes
        deferreds } := by
  unfold leave
  cases s.refreshes key with
  | none => exact ⟨_, _, rfl⟩
  | some refresh =>
      obtain ⟨inFlight, followUp⟩ := refresh
      cases followUp with
      | none => exact ⟨_, _, rfl⟩
      | some d => exact ⟨_, _, rfl⟩

theorem ReadsFrom.of_eq (h : s'.reads = s.reads) : s.ReadsFrom s' := by
  intro n read hread
  refine ⟨read, ?_, .refl read, fun _ => rfl⟩
  simpa only [HasRead, h] using hread

theorem Grows.reads_of_eq (h : s'.reads = s.reads) (n : Nat) (read : ProjectionRead)
    (hread : s.HasRead n read) : ∃ read', s'.HasRead n read' ∧ read.Continues read' := by
  refine ⟨read, ?_, .refl read⟩
  simpa only [HasRead, h] using hread

/-- The key of a family goes, and another one, or none, comes. -/
theorem Grows.leave (hselected : s.isSelected key = true) (next : Option ProjectionKey) :
    s.Grows { s.leave key with selected := Function.update s.selected key.family next } := by
  obtain ⟨refreshes, deferreds, heq⟩ := leave_eq key s
  rw [heq]
  constructor
  case now => rfl
  case generation => exact fun _ => Nat.le_refl _
  case reads => exact Grows.reads_of_eq rfl
  case leftAt =>
    intro key'
    by_cases hkey : key' = key
    · subst hkey
      simp
    · simp [hkey]
  case selected =>
    intro key' hselected'
    by_cases hfamily : key'.family = key.family
    · rw [isSelected_iff, hfamily, isSelected_iff.mp hselected] at hselected'
      cases hselected'
      simp
    · rw [isSelected_iff] at hselected' ⊢
      simp [hfamily, hselected']

theorem Grows.select_first (hselected : s.selected key.family = none) :
    s.Grows { s with selected := Function.update s.selected key.family (some key) } where
  now := rfl
  leftAt _ := .inl rfl
  generation _ := Nat.le_refl _
  reads := Grows.reads_of_eq rfl
  selected key' hselected' := by
    left
    rw [isSelected_iff] at hselected' ⊢
    by_cases hfamily : key'.family = key.family
    · rw [hfamily, hselected] at hselected'
      cases hselected'
    · simp [hfamily, hselected']

theorem Grows.bump (s : WebView) (family : ProjectionFamily) :
    s.Grows
      { s with generation := Function.update s.generation family (s.generation family + 1) } where
  now := rfl
  leftAt _ := .inl rfl
  selected _ hselected := .inl hselected
  reads := Grows.reads_of_eq rfl
  generation family' := by
    by_cases hfamily : family' = family
    · subst hfamily
      simp
    · simp [hfamily]

theorem ShownFrom.leave (key : ProjectionKey)
    (selected : ProjectionFamily → Option ProjectionKey) :
    s.ShownFrom { s.leave key with selected } := by
  obtain ⟨refreshes, deferreds, heq⟩ := leave_eq key s
  rw [heq]
  intro key'
  by_cases hkey : key' = key
  · subst hkey
    simp
  · simp [hkey]

theorem SelectsOwn.update (h : s.SelectsOwn) {family : ProjectionFamily}
    {next : Option ProjectionKey} (hnext : ∀ key, next = some key → key.family = family)
    (halways : family.always = true → next.isSome = true) (s' : WebView)
    (hselected : s'.selected = Function.update s.selected family next) : s'.SelectsOwn where
  own family' key' hkey' := by
    rw [hselected] at hkey'
    by_cases hfamily : family' = family
    · subst hfamily
      simp only [Function.update_self] at hkey'
      exact hnext key' hkey'
    · simp only [Function.update_of_ne hfamily] at hkey'
      exact h.own family' key' hkey'
  always family' hfamily' := by
    rw [hselected]
    by_cases hfamily : family' = family
    · subst hfamily
      simp only [Function.update_self]
      exact halways hfamily'
    · simp only [Function.update_of_ne hfamily]
      exact h.always family' hfamily'

theorem ReadsInv.leave (h : ReadsInv server s) (hselected : s.isSelected key = true)
    (next : Option ProjectionKey) (hnext : ∀ key', next = some key' → key'.family = key.family)
    (halways : key.family.always = true → next.isSome = true) :
    ReadsInv server
      { s.leave key with selected := Function.update s.selected key.family next } := by
  have hgrows := Grows.leave hselected next
  have hreads : (s.leave key).reads = s.reads := by
    obtain ⟨refreshes, deferreds, heq⟩ := leave_eq key s
    rw [heq]
  have hgeneration : (s.leave key).generation = s.generation := by
    obtain ⟨refreshes, deferreds, heq⟩ := leave_eq key s
    rw [heq]
  apply h.evolve hgrows (.of_eq hreads) (.leave key _) (h.own.update hnext halways _ rfl)
  · intro n read _ hnewest
    simpa only [Newest, hgeneration] using hnewest
  · intro n read hread
    simp only [HasRead, hreads] at hread
    exact (h.each n read hread).mono hgrows (h.left _)

theorem ReadsInv.select_first (h : ReadsInv server s) (hselected : s.selected key.family = none) :
    ReadsInv server
      { s with selected := Function.update s.selected key.family (some key) } := by
  have hgrows := Grows.select_first hselected
  have hnext : ∀ key', some key = some key' → key'.family = key.family := by
    intro key' hkey'
    cases hkey'
    rfl
  apply h.evolve hgrows (.of_eq rfl) (fun _ => .inl rfl) (h.own.update hnext (fun _ => rfl) _ rfl)
  · exact fun _ _ _ hnewest => hnewest
  · exact fun n read hread => (h.each n read hread).mono hgrows (h.left _)

theorem ReadsInv.bump (h : ReadsInv server s) (family : ProjectionFamily) :
    ReadsInv server
      { s with generation := Function.update s.generation family (s.generation family + 1) } := by
  have hgrows := Grows.bump s family
  apply h.evolve hgrows (.of_eq rfl) (fun _ => .inl rfl) { h.own with }
  · intro n read hread hnewest
    obtain ⟨hkind, hgeneration⟩ := hnewest
    have hle := (h.each n read hread).generation hkind
    by_cases hfamily : read.key.family = family
    · subst hfamily
      simp at hgeneration
      omega
    · simp only [Function.update_of_ne hfamily] at hgeneration
      exact ⟨hkind, hgeneration⟩
  · exact fun n read hread => (h.each n read hread).mono hgrows (h.left _)

theorem select_cases (hown : s.SelectsOwn) (key : ProjectionKey) :
    (s.isSelected key = true ∧ s.select key = s) ∨
    (∃ previous, s.isSelected previous = true ∧ previous.family = key.family ∧
      s.select key =
        { s.leave previous with
          selected := Function.update s.selected previous.family (some key) }) ∨
    (s.selected key.family = none ∧
      s.select key =
        { s with selected := Function.update s.selected key.family (some key) }) := by
  unfold select
  cases hselected : s.selected key.family with
  | none => exact .inr (.inr ⟨rfl, rfl⟩)
  | some previous =>
      have hfamily := hown.own _ _ hselected
      by_cases hsame : previous = key
      · subst hsame
        exact .inl ⟨isSelected_iff.mpr hselected, by simp⟩
      · refine .inr (.inl ⟨previous, ?_, hfamily, ?_⟩)
        · rw [isSelected_iff, hfamily, hselected]
        · simp [hsame, hfamily]

theorem ReadsInv.select (h : ReadsInv server s) (key : ProjectionKey) :
    s.Grows (s.select key) ∧ ReadsInv server (s.select key) := by
  cases select_cases h.own key with
  | inl hsame =>
      rw [hsame.2]
      exact ⟨.refl s, h⟩
  | inr hchanges =>
      cases hchanges with
      | inl hleaves =>
          obtain ⟨previous, hselected, hfamily, heq⟩ := hleaves
          rw [heq]
          refine ⟨.leave hselected _, h.leave hselected _ ?_ (fun _ => rfl)⟩
          intro key' hkey'
          cases hkey'
          exact hfamily.symm
      | inr hfirst =>
          rw [hfirst.2]
          exact ⟨.select_first hfirst.1, h.select_first hfirst.1⟩

theorem ReadsInv.deselect (h : ReadsInv server s) {family : ProjectionFamily}
    (halways : family.always = false) :
    s.Grows (s.deselect family) ∧ ReadsInv server (s.deselect family) := by
  unfold WebView.deselect
  cases hselected : s.selected family with
  | none => exact ⟨.bump s family, h.bump family⟩
  | some key =>
      have hfamily := h.own.own _ _ hselected
      subst hfamily
      have hkey := isSelected_iff.mpr hselected
      have hleft := h.leave hkey none (fun _ hnone => by cases hnone) (by simp [halways])
      have hgeneration : (s.leave key).generation = s.generation := by
        obtain ⟨refreshes, deferreds, heq⟩ := leave_eq key s
        rw [heq]
      have hbump := hleft.bump key.family
      have hgrows := (Grows.leave hkey none).trans (.bump _ key.family)
      simp only [hgeneration] at hbump hgrows
      exact ⟨hgrows, hbump⟩

theorem deselect_reads (family : ProjectionFamily) (s : WebView) :
    (s.deselect family).reads = s.reads ∧ (s.deselect family).latest = s.latest ∧
      ∀ key, (s.deselect family).isSelected key = true → s.isSelected key = true := by
  unfold deselect
  cases hselected : s.selected family with
  | none => exact ⟨rfl, rfl, fun _ hkey => hkey⟩
  | some previous =>
      obtain ⟨refreshes, deferreds, heq⟩ := leave_eq previous s
      simp only [heq, isSelected_iff, true_and]
      intro key hkey
      by_cases hfamily : key.family = family
      · simp [hfamily] at hkey
      · simpa only [Function.update_of_ne hfamily] using hkey

theorem LatestInv.deselect (h : LatestInv s) (hreads : ReadsInv server s)
    {family : ProjectionFamily} (halways : family.always = false) :
    LatestInv (s.deselect family) := by
  obtain ⟨hsame, hlatest, hselected⟩ := deselect_reads family s
  exact h.evolve (hreads.deselect halways).1 (ReadsFrom.of_eq hsame).continues hlatest hselected

theorem select_reads (hown : s.SelectsOwn) (key : ProjectionKey) :
    (s.select key).reads = s.reads ∧ (s.select key).latest = s.latest ∧
      (s.select key).isSelected key = true ∧
      ∀ key', (s.select key).isSelected key' = true → key' = key ∨ s.isSelected key' = true := by
  cases select_cases hown key with
  | inl hsame =>
      rw [hsame.2]
      exact ⟨rfl, rfl, hsame.1, fun _ hselected => .inr hselected⟩
  | inr hchanges =>
      have hupdate : ∀ s' : WebView,
          s'.selected = Function.update s.selected key.family (some key) →
          s'.isSelected key = true ∧
            ∀ key', s'.isSelected key' = true → key' = key ∨ s.isSelected key' = true := by
        intro s' hs'
        simp only [isSelected_iff, hs', Function.update_self, true_and]
        intro key' hkey'
        by_cases hfamily : key'.family = key.family
        · simp only [hfamily, Function.update_self, Option.some.injEq] at hkey'
          exact .inl hkey'.symm
        · simp only [Function.update_of_ne hfamily] at hkey'
          exact .inr hkey'
      cases hchanges with
      | inl hleaves =>
          obtain ⟨previous, -, hfamily, heq⟩ := hleaves
          obtain ⟨refreshes, deferreds, hleave⟩ := leave_eq previous s
          rw [heq, hleave]
          exact ⟨rfl, rfl, hupdate _ (by rw [hfamily])⟩
      | inr hfirst =>
          rw [hfirst.2]
          exact ⟨rfl, rfl, hupdate _ rfl⟩

/-! ### Requests are issued -/

theorem hasRead_addRead {new : ProjectionRead} (h : (s.addRead new).HasRead n read) :
    s.HasRead n read ∨ (n = s.reads.length ∧ read = new) :=
  getElem?_concat_cases h

theorem addRead_hasRead (s : WebView) (new : ProjectionRead) :
    (s.addRead new).HasRead s.reads.length new :=
  List.getElem?_concat_length

theorem HasRead.lt_length (h : s.HasRead n read) : n < s.reads.length :=
  (List.getElem?_eq_some_iff.mp h).1

theorem Grows.addRead (s : WebView) (new : ProjectionRead) : s.Grows (s.addRead new) where
  now := rfl
  leftAt _ := .inl rfl
  selected _ hselected := .inl hselected
  generation _ := Nat.le_refl _
  reads n read hread := by
    refine ⟨read, ?_, .refl read⟩
    have hlt := hread.lt_length
    simp only [HasRead, WebView.addRead]
    rw [List.getElem?_append_left hlt]
    exact hread

/-- A request that has just been issued. -/
structure Fresh (s : WebView) (new : ProjectionRead) : Prop where
  issuedAt : new.issuedAt = s.now
  readAt : new.readAt = none
  state : new.state = .reading
  applied : new.applied = false
  generation : new.kind.isBeside = false → new.generation ≤ s.generation new.key.family
  beside : new.kind.isBeside = true → new.key.family = .thread
  newest : s.Newest new → ∀ n read, s.HasRead n read → read.key.family = new.key.family →
    ¬ s.Newest read

theorem Fresh.readOk {new : ProjectionRead} (h : s.Fresh new) : s.ReadOk new where
  issued := Nat.le_of_eq h.issuedAt
  served := by simp [h.readAt]
  applied := by simp [h.applied]
  fetched := by simp [h.state]
  generation := h.generation
  beside := h.beside
  handled := by simp [h.state]
  follows := by simp [h.state]

theorem ReadsInv.addRead (h : ReadsInv server s) {new : ProjectionRead} (hnew : s.Fresh new) :
    ReadsInv server (s.addRead new) where
  own := { h.own with }
  left := h.left
  each n read hread := by
    have hok : s.ReadOk read := by
      cases hasRead_addRead hread with
      | inl hold => exact h.each n read hold
      | inr hhere =>
          rw [hhere.2]
          exact hnew.readOk
    exact hok.mono (.addRead s new) (h.left _)
  unique n m read other hread hother hn hm hfamily := by
    cases hasRead_addRead hread with
    | inl hold =>
        cases hasRead_addRead hother with
        | inl hold' => exact h.unique n m read other hold hold' hn hm hfamily
        | inr hhere =>
            obtain ⟨-, rfl⟩ := hhere
            exact absurd hn (hnew.newest hm n read hold hfamily)
    | inr hhere =>
        obtain ⟨rfl, rfl⟩ := hhere
        cases hasRead_addRead hother with
        | inl hold' => exact absurd hm (hnew.newest hn m other hold' hfamily.symm)
        | inr hhere' => exact hhere'.1.symm
  newest n m read other hread hother hn happlied hkey hne time htime := by
    cases hasRead_addRead hother with
    | inl hold' =>
        cases hasRead_addRead hread with
        | inl hold => exact h.newest n m read other hold hold' hn happlied hkey hne time htime
        | inr hhere =>
            rw [hhere.2, hnew.issuedAt]
            exact ((h.each m other hold').served time htime).2
    | inr hhere =>
        rw [hhere.2, hnew.applied] at happlied
        cases happlied
  covers n read time hread happlied hleft htime := by
    cases hasRead_addRead hread with
    | inl hold => exact h.covers n read time hold happlied hleft htime
    | inr hhere =>
        rw [hhere.2, hnew.applied] at happlied
        cases happlied
  shownRun runId shown hshown := by
    obtain ⟨n, read, time, hread, hkey, happlied, htime, heq⟩ := h.shownRun runId shown hshown
    obtain ⟨read', hread', hcontinues⟩ := (Grows.addRead s new).reads n read hread
    cases hasRead_addRead hread' with
    | inl hold =>
        have hsame : read = read' := Option.some.inj (hread.symm.trans hold)
        subst hsame
        exact ⟨n, read, time, hread', hkey, happlied, htime, heq⟩
    | inr hhere =>
        have hlt := hread.lt_length
        omega

theorem LatestInv.addRead (hreads : ReadsInv server s) {new : ProjectionRead}
    (hissued : new.issuedAt = s.now)
    (hbeside : s.isSelected new.key = true → new.kind.isBeside = false)
    (hothers : ∀ key m, key ≠ new.key → s.latest key = some m →
      ∃ read, s.HasRead m read ∧ read.key = key ∧
        (s.isSelected key = true → read.kind.isBeside = false) ∧
        ∀ n other, s.HasRead n other → other.key = key → other.issuedAt ≤ read.issuedAt) :
    LatestInv (s.addRead new) where
  latest key m hm := by
    by_cases hkey : key = new.key
    · subst hkey
      simp only [WebView.addRead, Function.update_self, Option.some.injEq] at hm
      subst hm
      refine ⟨new, addRead_hasRead s new, rfl, hbeside, ?_⟩
      intro n other hother _
      rw [hissued]
      cases hasRead_addRead hother with
      | inl hold => exact (hreads.each n other hold).issued
      | inr hhere =>
          rw [hhere.2]
          exact Nat.le_of_eq hissued
    · simp only [WebView.addRead, Function.update_of_ne hkey] at hm
      obtain ⟨read, hread, hkey', hkind, hlatest⟩ := hothers key m hkey hm
      have hsame : (s.addRead new).HasRead m read := by
        simp only [HasRead, WebView.addRead]
        rw [List.getElem?_append_left hread.lt_length]
        exact hread
      refine ⟨read, hsame, hkey', hkind, ?_⟩
      intro n other hother hother'
      cases hasRead_addRead hother with
      | inl hold => exact hlatest n other hold hother'
      | inr hhere =>
          rw [hhere.2] at hother'
          exact absurd hother'.symm hkey

end WebView

end Torsor.Web
