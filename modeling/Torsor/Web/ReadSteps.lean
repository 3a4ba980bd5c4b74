import Torsor.Web.ReadInvariants

/-! # Steps of reads

Requests are issued, read by the server, answered, superseded and shown, and what holds of the
reads of a window is kept.
-/

namespace Torsor.Web

open Torsor.Library Torsor.Kernel

namespace WebView

variable {s s' : WebView} {server : ServerState} {key : ProjectionKey} {time n m : Nat}
variable {read other : ProjectionRead} {kind : ReadKind}

/-- What the reads of a window keep. -/
structure Reads (server : ServerState) (s : WebView) : Prop where
  reads : ReadsInv server s
  latest : LatestInv s

theorem Grows.with_work (s : WebView) (refreshes : ProjectionKey → Option CoalescedRefresh)
    (deferreds : List (ProjectionKey × Deferred))
    (invalidations : ProjectionKey → Option ProjectionInvalidation)
    (works : List InvalidationWork) (composers : List ComposerRefresh)
    (routed : List (Nat × ProjectionKey)) :
    s.Grows { s with refreshes, deferreds, invalidations, works, composers, routed } where
  now := rfl
  leftAt _ := .inl rfl
  selected _ hselected := .inl hselected
  generation _ := Nat.le_refl _
  reads := Grows.reads_of_eq rfl

/-- What is done about invalidations does not touch the reads. -/
theorem Reads.with_work (h : Reads server s)
    (refreshes : ProjectionKey → Option CoalescedRefresh)
    (deferreds : List (ProjectionKey × Deferred))
    (invalidations : ProjectionKey → Option ProjectionInvalidation)
    (works : List InvalidationWork) (composers : List ComposerRefresh)
    (routed : List (Nat × ProjectionKey)) :
    Reads server { s with refreshes, deferreds, invalidations, works, composers, routed } where
  reads := { h.reads with
    own := { h.reads.own with }
    each := fun n read hread => { h.reads.each n read hread with } }
  latest := { h.latest with }

/-! ## Requests are issued -/

theorem Grows.issue (key : ProjectionKey) (kind : ReadKind) (s : WebView) :
    s.Grows (s.issue key kind) :=
  (Grows.bump s key.family).trans (.addRead _ _)

theorem ReadsInv.issue (h : ReadsInv server s) (key : ProjectionKey)
    (hkind : kind.isBeside = false) : ReadsInv server (s.issue key kind) := by
  apply (h.bump key.family).addRead
  constructor
  case issuedAt => rfl
  case readAt => rfl
  case state => rfl
  case applied => rfl
  case generation => simp
  case beside => simp [hkind]
  case newest =>
    intro _ n read hread hfamily hnewest
    obtain ⟨hkind', hgeneration⟩ := hnewest
    have hle := (h.each n read hread).generation hkind'
    simp only at hfamily
    simp only [hfamily, Function.update_self] at hgeneration
    rw [hfamily] at hle
    omega

theorem LatestInv.issue (h : LatestInv s) (hreads : ReadsInv server s) (key : ProjectionKey)
    (hkind : kind.isBeside = false) : LatestInv (s.issue key kind) := by
  apply LatestInv.addRead (hreads.bump key.family) rfl (fun _ => hkind)
  intro key' m _ hm
  exact h.latest key' m hm

theorem Reads.load (h : Reads server s) (key : ProjectionKey) :
    s.Grows (s.load key) ∧ Reads server (s.load key) := by
  obtain ⟨hgrows, hselect⟩ := h.reads.select key
  obtain ⟨hreads, hlatest, hkey, hothers⟩ := select_reads h.reads.own key
  refine ⟨hgrows.trans (.issue key .single _), hselect.issue key rfl, ?_⟩
  apply LatestInv.addRead (hselect.bump key.family) rfl (fun _ => rfl)
  intro key' m hne hm
  simp only [hlatest] at hm
  obtain ⟨read, hread, hkey', hkind, hissued⟩ := h.latest.latest key' m hm
  refine ⟨read, ?_, hkey', ?_, ?_⟩
  · simpa only [HasRead, hreads] using hread
  · intro hselected
    cases hothers key' hselected with
    | inl hsame => exact absurd hsame hne
    | inr hselected' => exact hkind hselected'
  · intro n other hother hother'
    simp only [HasRead, hreads] at hother
    exact hissued n other hother hother'

theorem load_hasRead (hown : s.SelectsOwn) (key : ProjectionKey) :
    ∃ generation, (s.load key).HasRead s.reads.length
      { key, kind := .single, issuedAt := (s.select key).now, generation } := by
  have hreads := (select_reads hown key).1
  refine ⟨(s.select key).generation key.family + 1, ?_⟩
  rw [← hreads]
  exact addRead_hasRead _ _

theorem Reads.load_since (h : Reads server s) (key : ProjectionKey) :
    (s.load key).ReadSince key s.now s.reads.length := by
  obtain ⟨generation, hread⟩ := load_hasRead h.reads.own key
  have hnow := (h.reads.select key).1.now
  exact ⟨_, hread, rfl, rfl, Nat.le_of_eq hnow.symm⟩

theorem Reads.deselect (h : Reads server s) {family : ProjectionFamily}
    (halways : family.always = false) :
    s.Grows (s.deselect family) ∧ Reads server (s.deselect family) :=
  ⟨(h.reads.deselect halways).1, (h.reads.deselect halways).2, h.latest.deselect h.reads halways⟩

/-! ### The Run composer -/

theorem Reads.addBeside (h : Reads server s) {threadId : String}
    {threadKey : Option ProjectionKey} {runKey : ProjectionKey} {generation : Nat}
    (hthread : s.isSelected (.thread threadId) = false) :
    Reads server (s.addRead
      { key := .thread threadId
        kind := .beside threadKey runKey
        issuedAt := s.now
        generation }) where
  reads := by
    apply h.reads.addRead
    constructor
    case issuedAt => rfl
    case readAt => rfl
    case state => rfl
    case applied => rfl
    case generation => simp [ReadKind.isBeside]
    case beside => simp [ProjectionKey.family]
    case newest => simp [Newest, ReadKind.isBeside]
  latest := by
    apply LatestInv.addRead h.reads rfl
    · simp [hthread]
    · intro key' m _ hm
      exact h.latest.latest key' m hm

theorem Reads.refreshRunComposer (h : Reads server s) (runId threadId : String) :
    s.Grows (s.refreshRunComposer runId threadId) ∧
      Reads server (s.refreshRunComposer runId threadId) := by
  have hrun : Reads server (s.issue (.run runId) .half) :=
    ⟨h.reads.issue _ rfl, h.latest.issue h.reads _ rfl⟩
  have hrunGrows := Grows.issue (.run runId) .half s
  unfold WebView.refreshRunComposer
  by_cases hthread : s.isSelected (.thread threadId) = true
  · simp only [hthread, if_true]
    have hboth : Reads server ((s.issue (.run runId) .half).issue (.thread threadId) .half) :=
      ⟨hrun.reads.issue _ rfl, hrun.latest.issue hrun.reads _ rfl⟩
    refine ⟨?_, hboth.with_work _ _ _ _ _ _⟩
    have hgrows := hrunGrows.trans (.issue (.thread threadId) .half _)
    exact { hgrows with }
  · have hthread' : s.isSelected (.thread threadId) = false := by simpa using hthread
    simp only [hthread', Bool.false_eq_true, if_false]
    refine ⟨?_, (hrun.addBeside hthread').with_work _ _ _ _ _ _⟩
    have hgrows := hrunGrows.trans (.addRead _
      { key := .thread threadId
        kind := .beside (s.selected .thread) (.run runId)
        issuedAt := s.now
        generation := s.generation .thread })
    exact { hgrows with }

/-! ## Requests are answered -/

section Modify

variable {f : ProjectionRead → ProjectionRead}

theorem Reads.modify (h : Reads server s) (hread : s.HasRead n read)
    (hf : read.Continues (f read)) (happlied : (f read).applied = false)
    (hok : s.ReadOk (f read)) :
    s.Grows { s with reads := s.reads.modify n f } ∧
      Reads server { s with reads := s.reads.modify n f } :=
  ⟨.modify hread hf, h.reads.modify hread hf happlied hok, h.latest.modify hread hf⟩

end Modify

theorem ReadOk.not_applied (h : s.ReadOk read) (hstate : read.state ≠ .settled true) :
    read.applied = false := by
  by_contra happlied
  exact hstate (h.applied (by simpa using happlied)).1

theorem Reads.setReadState (h : Reads server s) (hread : s.HasRead n read)
    (hstate : read.state ≠ .settled true) {state : ReadState}
    (hfetched : state = .fetched true → read.readAt.isSome = true)
    (hsettled : read.kind.isBeside = false → state = .settled true →
      s.Handled read.key read.issuedAt)
    (hfollows : read.kind.isBeside = false → ∀ m, state = .awaiting m ∨ state = .returning m →
      s.ReadSince read.key read.issuedAt m) :
    s.Grows (s.setReadState n state) ∧ Reads server (s.setReadState n state) := by
  have hok := h.reads.each n read hread
  have happlied := hok.not_applied hstate
  apply h.modify hread
  · exact ⟨rfl, rfl, rfl, rfl, id⟩
  · exact happlied
  · exact { hok with
      applied := by simp [happlied]
      fetched := hfetched
      handled := hsettled
      follows := hfollows }

theorem Reads.settleFalse (h : Reads server s) (hread : s.HasRead n read)
    (hstate : read.state ≠ .settled true) :
    s.Grows (s.setReadState n (.settled false)) ∧
      Reads server (s.setReadState n (.settled false)) :=
  h.setReadState hread hstate (by simp) (by simp) (by simp)

theorem Reads.serve (h : Reads server s) (hread : s.HasRead n read) (hstate : read.state = .reading) :
    s.Grows { s with reads := s.reads.modify n fun read => { read with readAt := some s.now } } ∧
      Reads server
        { s with reads := s.reads.modify n fun read => { read with readAt := some s.now } } := by
  have hok := h.reads.each n read hread
  have happlied := hok.not_applied (by simp [hstate])
  apply h.modify hread
  · exact ⟨rfl, rfl, rfl, rfl, id⟩
  · exact happlied
  · exact { hok with
      served := by
        intro time htime
        cases htime
        exact ⟨hok.issued, Nat.le_refl _⟩
      applied := by simp [happlied]
      fetched := by simp }

theorem Reads.refetch (h : Reads server s) (hread : s.HasRead n read)
    (hstate : read.state = .reading) :
    s.Grows { s with reads := s.reads.modify n fun read => { read with readAt := none } } ∧
      Reads server { s with reads := s.reads.modify n fun read => { read with readAt := none } } := by
  have hok := h.reads.each n read hread
  have happlied := hok.not_applied (by simp [hstate])
  apply h.modify hread
  · exact ⟨rfl, rfl, rfl, rfl, id⟩
  · exact happlied
  · exact { hok with
      served := by simp
      applied := by simp [happlied]
      fetched := by simp [hstate] }

theorem selected_of_inScope (hkind : read.kind.isBeside = false) (hscope : s.inScope read = true)
    (hfamily : read.key.family = .thread) : s.isSelected read.key = true := by
  unfold inScope at hscope
  split at hscope
  · rename_i hbeside
    simp [hbeside, ReadKind.isBeside] at hkind
  · split at hscope
    · exact hscope
    · exact hscope
    · rename_i hthread _
      revert hfamily hthread
      cases read.key <;> simp [ProjectionKey.family]

theorem Reads.replaced (h : Reads server s) (hread : s.HasRead n read)
    (hstate : read.state ≠ .settled true) :
    s.Grows (s.replaced n read) ∧ Reads server (s.replaced n read) := by
  unfold WebView.replaced
  split
  case isFalse => exact h.settleFalse hread hstate
  case isTrue hscope =>
    cases hlatest : s.latest read.key with
    | none => exact h.settleFalse hread hstate
    | some m =>
        by_cases hm : m = n
        · simp only [hm, if_true]
          exact h.settleFalse hread hstate
        · simp only [hm, if_false]
          apply h.setReadState hread hstate (by simp) (by simp)
          intro hkind m' hm'
          have hm'' : m = m' := by simpa using hm'
          subst hm''
          obtain ⟨other, hother, hkey, hbeside, hissued⟩ := h.latest.latest _ _ hlatest
          refine ⟨other, hother, hkey, ?_, hissued n read hread rfl⟩
          -- Only a Thread is read beside the selection, and then it is not selected.
          by_contra hkind'
          have hfamily := (h.reads.each m other hother).beside (by simpa using hkind')
          rw [hkey] at hfamily
          exact hkind' (hbeside (selected_of_inScope hkind hscope hfamily))

/-! ### Responses are shown -/

theorem newest_of_isCurrent (hkind : read.kind.isBeside = false)
    (hcurrent : s.isCurrent n read = true) : s.Newest read := by
  refine ⟨hkind, ?_⟩
  unfold isCurrent at hcurrent
  split at hcurrent
  · rename_i hbeside
    simp [hbeside, ReadKind.isBeside] at hkind
  · simp only [Bool.and_eq_true, decide_eq_true_eq] at hcurrent
    exact hcurrent.2.symm

theorem merged_eq (h : ReadsInv server s) (hread : s.HasRead n read)
    (happlied : read.applied = false) (hnewest : s.Newest read) (htime : read.readAt = some time) :
    s.merged server read.key time = server.read read.key time := by
  unfold merged
  split
  · rename_i runId readAt previous hkey hshown
    rw [hkey] at hshown
    obtain ⟨m, other, time', hother, hkey', happlied', htime', hshown'⟩ :=
      h.shownRun runId _ hshown
    have hne : m ≠ n := by
      rintro rfl
      have hsame : read = other := Option.some.inj (hread.symm.trans hother)
      rw [hsame, happlied'] at happlied
      cases happlied
    have hle : time' ≤ time := by
      have hissued := h.newest n m read other hread hother hnewest happlied'
        (hkey'.trans hkey.symm) hne time' htime'
      have hserved := ((h.each n read hread).served time htime).1
      omega
    have hprevious : previous.revision = server.revision runId time' := by
      simp only [ServerState.read, Shown.mk.injEq, List.cons.injEq, and_true] at hshown'
      rw [hshown'.2]
      rfl
    have hmono := server.revision_mono runId time' time hle
    have hnot : ¬ server.revision runId time < previous.revision := by omega
    simp only [hnot, if_false]
  · rfl

theorem Grows.applyRead (hread : s.HasRead n read) :
    s.Grows (s.applyRead server n read time) := by
  have hcontinues : read.Continues { read with state := .settled true, applied := true } :=
    ⟨rfl, rfl, rfl, rfl, fun _ => rfl⟩
  have hmodify : s.Grows { s with
      reads := s.reads.modify n fun read =>
        { read with state := .settled true, applied := true } } :=
    .modify hread hcontinues
  exact { hmodify with }

/-- A response to the newest request of its family is shown. -/
theorem ReadsInv.applyRead (h : ReadsInv server s) (hread : s.HasRead n read)
    (happlied : read.applied = false) (hnewest : s.Newest read) (htime : read.readAt = some time) :
    ReadsInv server (s.applyRead server n read time) := by
  have hok := h.each n read hread
  have hserved := hok.served time htime
  have hgrows : s.Grows (s.applyRead server n read time) := .applyRead hread
  have hhere : (s.applyRead server n read time).HasRead n
      { read with state := .settled true, applied := true } := by
    simp only [HasRead, WebView.applyRead, List.getElem?_modify_eq, Option.map_eq_map,
      Option.map_eq_some_iff]
    exact ⟨read, hread, rfl⟩
  have hcases : ∀ m other, (s.applyRead server n read time).HasRead m other →
      (m = n ∧ other = { read with state := .settled true, applied := true }) ∨
        (m ≠ n ∧ s.HasRead m other) := by
    intro m other hother
    cases getElem?_modify_cases hother with
    | inl hsame =>
        obtain ⟨rfl, read', hread', rfl⟩ := hsame
        have heq : read = read' := Option.some.inj (hread.symm.trans hread')
        exact .inl ⟨rfl, by rw [heq]⟩
    | inr helsewhere => exact .inr helsewhere
  have hshown : (s.applyRead server n read time).shown =
      Function.update s.shown read.key (some (server.read read.key time)) := by
    simp only [WebView.applyRead]
    rw [merged_eq h hread happlied hnewest htime]
  constructor
  case own => exact { h.own with }
  case left => exact hgrows.left h.left
  case each =>
    intro m other hother
    cases hcases m other hother with
    | inl hsame =>
        rw [hsame.2]
        exact { hok.mono hgrows (h.left _) with
          applied := fun _ => ⟨rfl, hnewest.1, by simp [htime]⟩
          fetched := by simp
          handled := fun _ _ => .inr ⟨n, _, hhere, rfl, rfl, Nat.le_refl _⟩
          follows := by simp }
    | inr helsewhere => exact (h.each m other helsewhere.2).mono hgrows (h.left _)
  case unique =>
    intro m m' other other' hother hother' hm hm' hfamily
    cases hcases m other hother with
    | inl hsame =>
        obtain ⟨rfl, rfl⟩ := hsame
        cases hcases m' other' hother' with
        | inl hsame' => exact hsame'.1.symm
        | inr helsewhere' =>
            exact h.unique m m' read other' hread helsewhere'.2 hnewest hm' hfamily
    | inr helsewhere =>
        cases hcases m' other' hother' with
        | inl hsame' =>
            obtain ⟨rfl, rfl⟩ := hsame'
            exact h.unique m m' other read helsewhere.2 hread hm hnewest hfamily
        | inr helsewhere' =>
            exact h.unique m m' other other' helsewhere.2 helsewhere'.2 hm hm' hfamily
  case newest =>
    intro m m' other other' hother hother' hm happlied' hkey hne time' htime'
    cases hcases m' other' hother' with
    | inl hsame' =>
        obtain ⟨rfl, rfl⟩ := hsame'
        cases hcases m other hother with
        | inl hsame => exact absurd hsame.1.symm hne
        | inr helsewhere =>
            have hfamily : other.key.family = read.key.family := by rw [← hkey]
            exact absurd (h.unique m m' other read helsewhere.2 hread hm hnewest hfamily).symm hne
    | inr helsewhere' =>
        cases hcases m other hother with
        | inl hsame =>
            obtain ⟨rfl, rfl⟩ := hsame
            exact h.newest m m' read other' hread helsewhere'.2 hnewest happlied' hkey hne time'
              htime'
        | inr helsewhere =>
            exact h.newest m m' other other' helsewhere.2 helsewhere'.2 hm happlied' hkey hne time'
              htime'
  case covers =>
    intro m other time' hother happlied' hleft htime'
    rw [hshown]
    cases hcases m other hother with
    | inl hsame =>
        obtain ⟨rfl, rfl⟩ := hsame
        rw [htime] at htime'
        cases htime'
        exact ⟨_, Function.update_self .., ServerState.read_reflects _ (Nat.le_refl _)⟩
    | inr helsewhere =>
        by_cases hkey : other.key = read.key
        · have hle := h.newest n m read other hread helsewhere.2 hnewest happlied' hkey
            helsewhere.1 time' htime'
          rw [hkey]
          exact ⟨_, Function.update_self .., ServerState.read_reflects _ (by omega)⟩
        · rw [Function.update_of_ne hkey]
          exact h.covers m other time' helsewhere.2 happlied' hleft htime'
  case shownRun =>
    intro runId shown hshown'
    rw [hshown] at hshown'
    by_cases hkey : ProjectionKey.run runId = read.key
    · rw [hkey, Function.update_self] at hshown'
      cases hshown'
      exact ⟨n, _, time, hhere, hkey.symm, rfl, htime, by rw [hkey]⟩
    · rw [Function.update_of_ne hkey] at hshown'
      obtain ⟨m, other, time', hother, hkey', happlied', htime', heq⟩ :=
        h.shownRun runId shown hshown'
      have hne : n ≠ m := by
        rintro rfl
        have hsame : read = other := Option.some.inj (hread.symm.trans hother)
        rw [← hsame] at hkey'
        exact hkey hkey'.symm
      refine ⟨m, other, time', ?_, hkey', happlied', htime', heq⟩
      simp only [HasRead, WebView.applyRead]
      rw [List.getElem?_modify_ne _ _ hne]
      exact hother

theorem LatestInv.applyRead (h : LatestInv s) (hread : s.HasRead n read) :
    LatestInv (s.applyRead server n read time) := by
  have hcontinues : read.Continues { read with state := .settled true, applied := true } :=
    ⟨rfl, rfl, rfl, rfl, fun _ => rfl⟩
  have hmodify : s.ContinuesFrom { s with
      reads := s.reads.modify n fun read =>
        { read with state := .settled true, applied := true } } :=
    .modify hread hcontinues
  exact h.evolve (.applyRead hread) hmodify rfl fun _ hselected => hselected

theorem Reads.applyRead (h : Reads server s) (hread : s.HasRead n read)
    (hstate : read.state ≠ .settled true) (hkind : read.kind.isBeside = false)
    (hcurrent : s.isCurrent n read = true) (htime : read.readAt = some time) :
    s.Grows (s.applyRead server n read time) ∧ Reads server (s.applyRead server n read time) := by
  have happlied := (h.reads.each n read hread).not_applied hstate
  have hnewest := newest_of_isCurrent hkind hcurrent
  exact ⟨.applyRead hread, h.reads.applyRead hread happlied hnewest htime,
    h.latest.applyRead hread⟩

/-! ### Lists are patched -/

theorem patched_reflects {item : ShownItem} {shown : Shown} (h : shown.reflects time)
    (hnewer : ∀ old ∈ shown.items, old.id = item.id ∧ old.revision ≤ item.revision →
      old.readAt ≤ item.readAt) : (patched item shown).reflects time := by
  refine ⟨h.1, ?_⟩
  intro item' hitem'
  simp only [patched, List.mem_map] at hitem'
  obtain ⟨old, hold, rfl⟩ := hitem'
  have hle := h.2 old hold
  split
  · rename_i hreplaced
    have hle' := hnewer old hold hreplaced
    omega
  · exact hle

theorem ReadsInv.patch (h : ReadsInv server s) {item : ShownItem}
    (hrun : ∀ runId, key ≠ .run runId)
    (hnewer : ∀ shown, s.shown key = some shown → ∀ old ∈ shown.items,
      old.id = item.id ∧ old.revision ≤ item.revision → old.readAt ≤ item.readAt) :
    ReadsInv server
      { s with shown := Function.update s.shown key ((s.shown key).map (patched item)) } :=
  { h with
    own := { h.own with }
    each := fun n read hread => { h.each n read hread with }
    unique := h.unique
    newest := h.newest
    covers := by
      intro n read time hread happlied hleft htime
      obtain ⟨shown, hshown, hreflects⟩ := h.covers n read time hread happlied hleft htime
      by_cases hkey : read.key = key
      · subst hkey
        refine ⟨patched item shown, ?_, patched_reflects hreflects (hnewer shown hshown)⟩
        simp [hshown]
      · refine ⟨shown, ?_, hreflects⟩
        simp only [Function.update_of_ne hkey]
        exact hshown
    shownRun := by
      intro runId shown hshown
      simp only [Function.update_of_ne (hrun runId).symm] at hshown
      exact h.shownRun runId shown hshown }

end WebView

end Torsor.Web
