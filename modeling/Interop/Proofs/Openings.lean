import Mathlib.Data.List.Induction
import Interop.Proofs.Policies
import Interop.Proofs.Subscriptions

/-!
# Opening and closing over whole sessions

After any calls, whatever they end by, the active printers are those of the open generators, each
once, in the order in which each was last opened. So the printer in force is that of the generator
opened last among those that are open still, in whatever order the others were closed.
-/

namespace Interop

open Session Generation

/-- Anything that happens between calls and that neither opens nor closes a generator: options and
program may change, and so may files. -/
structure Interlude where
  /-- What happens. -/
  change : Session → Session
  /-- The subscriptions are what they were. -/
  keeps : ∀ s, (change s).subscriptions = s.subscriptions

/-- A call from outside. -/
inductive Call where
  /-- A generator is made. -/
  | create (backend : Backend)
  /-- A generator is opened. -/
  | openScope (g : GeneratorId)
  /-- A generator is closed. -/
  | closeScope (g : GeneratorId)
  /-- A generator makes its outputs. -/
  | generate (g : GeneratorId) (callback : Callback)
  /-- The backend that the options ask for is run, with a generator of its own. -/
  | run (table : BackendTable) (callback : Callback)
  /-- Something else happens. -/
  | elsewhere (interlude : Interlude)

namespace Call

/-- What a call does. There are no calls on a generator that is not there. -/
def perform : Call → Action Unit
  | create backend => discard (addGenerator backend)
  | openScope g => Action.modify fun s => if g < s.generators.length then openGenerator g s else s
  | closeScope g => Action.modify (closeGenerator g)
  | generate g callback => fun s =>
    match s.generator? g with
    | some generator => discard (Generation.generate g generator.backend callback.notify) s
    | none => (.ok (), s)
  | run table callback => discard (runTarget table callback.notify)
  | elsewhere interlude => Action.modify interlude.change

/-- What calls leave of a session, one after the other; the next call is made even if one ended by a
fault. -/
def performAll (calls : List Call) (s : Session) : Session :=
  calls.foldl (fun s call => (call.perform s).2) s

/-- The last call is made on what the others left. -/
theorem performAll_concat (calls : List Call) (call : Call) (s : Session) :
    performAll (calls ++ [call]) s = (call.perform (performAll calls s)).2 :=
  List.foldl_append

/-- What a call may make of the subscriptions. -/
inductive Effect (call : Call) (s t : Session) : Prop where
  /-- The call neither opens a closed generator nor closes an open one. -/
  | kept (h : t.printers = s.printers ∧ t.isOpen = s.isOpen)
      (hopen : ∀ g, call = .openScope g → g < s.generators.length → s.isOpen g = true)
      (hclose : ∀ g, call = .closeScope g → s.isOpen g = false)
  /-- The call opens a closed generator. -/
  | opened (g : GeneratorId) (hcall : call = .openScope g) (hg : g < s.generators.length)
      (hclosed : s.isOpen g = false) (hprinters : t.printers = s.printers.subscribe g)
      (hopen : ∀ k, t.isOpen k = if k = g then true else s.isOpen k)
  /-- The call closes an open generator. -/
  | closed (g : GeneratorId) (hcall : call = .closeScope g) (hwasOpen : s.isOpen g = true)
      (hprinters : t.printers = s.printers.unsubscribe g)
      (hopen : ∀ k, t.isOpen k = if k = g then false else s.isOpen k)

/-- A call that is neither for opening nor for closing leaves the subscriptions. -/
theorem Effect.of_subscriptions {call : Call} {s t : Session}
    (h : t.subscriptions = s.subscriptions) (hopen : ∀ g, call ≠ .openScope g)
    (hclose : ∀ g, call ≠ .closeScope g) : Effect call s t :=
  .kept (subscriptions_eq_iff.1 h) (fun g hc => absurd hc (hopen g))
    fun g hc => absurd hc (hclose g)

/-- A call leaves the subscriptions, unless it opens a closed generator or closes an open one. -/
theorem effect_perform (call : Call) (s : Session) : Effect call s (call.perform s).2 := by
  cases call with
  | create backend =>
    exact .of_subscriptions (subscriptions_eq_iff.2 ⟨rfl, isOpen_addGenerator s backend⟩) nofun
      nofun
  | openScope g =>
    by_cases hg : g < s.generators.length
    · have hperform : ((openScope g).perform s).2 = openGenerator g s := if_pos hg
      cases ho : s.isOpen g with
      | false =>
        have h := Prod.ext_iff.1 (subscriptions_openGenerator hg ho)
        exact hperform ▸ .opened g rfl hg ho h.1 (congrFun h.2)
      | true =>
        have hsame : openGenerator g s = s := if_pos ho
        refine hperform ▸ hsame.symm ▸ .kept ⟨rfl, rfl⟩ ?_ nofun
        rintro k ⟨⟩ -
        exact ho
    · have hperform : ((openScope g).perform s).2 = s := if_neg hg
      refine hperform.symm ▸ .kept ⟨rfl, rfl⟩ ?_ nofun
      rintro k ⟨⟩ hk
      exact absurd hk hg
  | closeScope g =>
    cases ho : s.isOpen g with
    | true =>
      have h := Prod.ext_iff.1 (subscriptions_closeGenerator ho)
      exact .closed g rfl ho h.1 (congrFun h.2)
    | false =>
      have hsame : ((closeScope g).perform s).2 = s := if_neg (ne_true_of_eq_false ho)
      refine hsame.symm ▸ .kept ⟨rfl, rfl⟩ nofun ?_
      rintro k ⟨⟩
      exact ho
  | generate g callback =>
    refine .of_subscriptions ?_ nofun nofun
    unfold perform
    dsimp only
    split
    · exact (keeps_subscriptions_generate g _ callback.keeps).discard s
    · rfl
  | run table callback =>
    exact .of_subscriptions ((keeps_subscriptions_runTarget callback table).discard s) nofun nofun
  | elsewhere interlude => exact .of_subscriptions (interlude.keeps s) nofun nofun

/-- A generator is open after a call if the call opens it, or if it was open and the call does not
close it. -/
theorem isOpen_perform_iff (call : Call) (s : Session) (g : GeneratorId) :
    (call.perform s).2.isOpen g = true ↔
      (call = .openScope g ∧ g < s.generators.length) ∨
        (s.isOpen g = true ∧ call ≠ .closeScope g) := by
  cases effect_perform call s with
  | kept h hopen hclose =>
    rw [h.2]
    refine ⟨fun ho => .inr ⟨ho, fun hc => ?_⟩, ?_⟩
    · rw [hclose g hc] at ho
      cases ho
    · rintro (⟨hc, hg⟩ | ⟨ho, -⟩)
      · exact hopen g hc hg
      · exact ho
  | opened k hcall hk hclosed hprinters hopen =>
    rw [hopen, hcall]
    by_cases hg : g = k
    · rw [if_pos hg, hg]
      exact ⟨fun _ => .inl ⟨rfl, hk⟩, fun _ => rfl⟩
    · rw [if_neg hg]
      refine ⟨fun ho => .inr ⟨ho, nofun⟩, ?_⟩
      rintro (⟨hc, -⟩ | ⟨ho, -⟩)
      · exact absurd (openScope.inj hc).symm hg
      · exact ho
  | closed k hcall hwasOpen hprinters hopen =>
    rw [hopen, hcall]
    by_cases hg : g = k
    · rw [if_pos hg, hg]
      refine ⟨nofun, ?_⟩
      rintro (⟨hc, -⟩ | ⟨-, hc⟩)
      · cases hc
      · exact absurd rfl hc
    · rw [if_neg hg]
      refine ⟨fun ho => .inr ⟨ho, fun hc => hg (closeScope.inj hc).symm⟩, ?_⟩
      rintro (⟨hc, -⟩ | ⟨ho, -⟩)
      · cases hc
      · exact ho

end Call

open Call

/-- The call with a number takes a generator from closed to open. -/
def Opens (s : Session) (calls : List Call) (g : GeneratorId) (n : Nat) : Prop :=
  n < calls.length ∧ (performAll (calls.take n) s).isOpen g = false ∧
    (performAll (calls.take (n + 1)) s).isOpen g = true

/-- The call with a number is the last one that takes a generator from closed to open. -/
def LastOpens (s : Session) (calls : List Call) (g : GeneratorId) (n : Nat) : Prop :=
  Opens s calls g n ∧ ∀ m, Opens s calls g m → m ≤ n

/-- Of two generators, the first went from closed to open for the last time before the second
did. -/
def OpenedBefore (s : Session) (calls : List Call) (g h : GeneratorId) : Prop :=
  ∃ m n, LastOpens s calls g m ∧ LastOpens s calls h n ∧ m < n

section Opening

variable {s : Session} {calls : List Call} {call : Call} {g h : GeneratorId} {n : Nat}

/-- There is at most one last opening. -/
theorem LastOpens.unique {m : Nat} (hm : LastOpens s calls g m) (hn : LastOpens s calls g n) :
    m = n :=
  Nat.le_antisymm (hn.2 m hm.1) (hm.2 n hn.1)

/-- No generator was opened before itself. -/
theorem OpenedBefore.ne (hb : OpenedBefore s calls g h) : g ≠ h := by
  rintro rfl
  obtain ⟨m, n, hm, hn, hlt⟩ := hb
  exact Nat.ne_of_lt hlt (hm.unique hn)

/-- Of two generators, only one was opened before the other. -/
theorem OpenedBefore.asymm (hb : OpenedBefore s calls g h) : ¬ OpenedBefore s calls h g := by
  rintro ⟨n', m', hn', hm', hlt'⟩
  obtain ⟨m, n, hm, hn, hlt⟩ := hb
  rw [hm'.unique hm, hn'.unique hn] at hlt'
  exact Nat.lt_asymm hlt hlt'

/-- With one more call, the openings are those of the calls before and that of the last call, if it
is one. -/
theorem opens_concat_iff :
    Opens s (calls ++ [call]) g n ↔ Opens s calls g n ∨
      (n = calls.length ∧ (performAll calls s).isOpen g = false ∧
        (performAll (calls ++ [call]) s).isOpen g = true) := by
  unfold Opens
  rw [List.length_append, List.length_singleton, Nat.lt_succ_iff_lt_or_eq, or_and_right]
  refine or_congr (and_congr_right fun hn => ?_) (and_congr_right fun hn => ?_)
  · rw [List.take_append_of_le_length (Nat.le_of_lt hn), List.take_append_of_le_length hn]
  · rw [hn, List.take_left,
      List.take_of_length_le (by rw [List.length_append]; exact Nat.le_refl _)]

/-- Where the last call does not open a generator, its last opening stays. -/
theorem lastOpens_concat_of_not
    (hnot : ¬ ((performAll calls s).isOpen g = false ∧
      (performAll (calls ++ [call]) s).isOpen g = true)) :
    LastOpens s (calls ++ [call]) g n ↔ LastOpens s calls g n := by
  have hopens : ∀ m, Opens s (calls ++ [call]) g m ↔ Opens s calls g m := fun m =>
    opens_concat_iff.trans (or_iff_left fun hm => hnot hm.2)
  unfold LastOpens
  simp only [hopens]

/-- Where the last call opens a generator, that is its last opening. -/
theorem lastOpens_concat (hclosed : (performAll calls s).isOpen g = false)
    (hopen : (performAll (calls ++ [call]) s).isOpen g = true) :
    LastOpens s (calls ++ [call]) g calls.length := by
  refine ⟨opens_concat_iff.2 (.inr ⟨rfl, hclosed, hopen⟩), fun m hm => ?_⟩
  have hlt := hm.1
  rw [List.length_append] at hlt
  exact Nat.lt_succ_iff.1 hlt

end Opening

namespace Printers

variable {δ : Type} [DecidableEq δ]

/-- Giving up a printer leaves the others in their order. -/
theorem unsubscribe_sublist (d : δ) (p : Printers δ) :
    (p.unsubscribe d).active.Sublist p.active := by
  have h := (List.erase_sublist (a := d) (l := p.active.reverse)).reverse
  rwa [List.reverse_reverse] at h

/-- Where no printer is active twice, giving up one leaves all others. -/
theorem mem_unsubscribe_iff {d e : δ} {p : Printers δ} (h : p.active.Nodup) :
    e ∈ (p.unsubscribe d).active ↔ e ≠ d ∧ e ∈ p.active := by
  have hnodup : p.active.reverse.Nodup := List.pairwise_reverse.2 (h.imp Ne.symm)
  unfold unsubscribe
  rw [List.mem_reverse, hnodup.mem_erase_iff, List.mem_reverse]

end Printers

/-- The active printers after some calls are those of the open generators, in the order in which
each was last opened. -/
structure Subscribed (s : Session) (calls : List Call) : Prop where
  /-- A printer is active if its generator is open. -/
  mem : ∀ g, g ∈ (performAll calls s).printers.active ↔ (performAll calls s).isOpen g = true
  /-- An open generator was opened. -/
  exists_last : ∀ g, (performAll calls s).isOpen g = true → ∃ n, LastOpens s calls g n
  /-- Of two active printers, the first was opened before the second. -/
  order : (performAll calls s).printers.active.Pairwise (OpenedBefore s calls)

/-- One more call leaves the active printers in order. A generator that is open only if it was open
before keeps its last opening. -/
theorem Subscribed.concat {s : Session} {calls : List Call} (h : Subscribed s calls)
    (call : Call) : Subscribed s (calls ++ [call]) := by
  have heffect := effect_perform call (performAll calls s)
  rw [← performAll_concat] at heffect
  have hold {g : GeneratorId} (hg : (performAll (calls ++ [call]) s).isOpen g = true →
      (performAll calls s).isOpen g = true) (n : Nat) :
      LastOpens s (calls ++ [call]) g n ↔ LastOpens s calls g n := by
    refine lastOpens_concat_of_not fun ⟨hf, ht⟩ => ?_
    rw [hg ht] at hf
    cases hf
  have hbefore {g k : GeneratorId} (hg : ∀ n, LastOpens s (calls ++ [call]) g n ↔
      LastOpens s calls g n) (hk : ∀ n, LastOpens s (calls ++ [call]) k n ↔ LastOpens s calls k n)
      (hb : OpenedBefore s calls g k) : OpenedBefore s (calls ++ [call]) g k := by
    obtain ⟨m, n, hm, hn, hlt⟩ := hb
    exact ⟨m, n, (hg m).2 hm, (hk n).2 hn, hlt⟩
  cases heffect with
  | kept hsame hopen hclose =>
    have hall (g : GeneratorId) := hold (g := g) fun ht => hsame.2 ▸ ht
    refine ⟨?_, fun g hg => ?_, ?_⟩
    · rw [hsame.1, hsame.2]
      exact h.mem
    · obtain ⟨n, hn⟩ := h.exists_last g (hsame.2 ▸ hg)
      exact ⟨n, (hall g n).2 hn⟩
    · rw [hsame.1]
      exact h.order.imp (hbefore (hall _) (hall _))
  | opened g hcall hg hclosed hprinters hopen =>
    have hself := (hopen g).trans (if_pos rfl)
    have hother {k : GeneratorId} (hk : k ≠ g) := (hopen k).trans (if_neg hk)
    have hlast := lastOpens_concat hclosed hself
    have hothers {k : GeneratorId} (hk : k ≠ g) := hold (g := k) fun ht => hother hk ▸ ht
    have hne {k : GeneratorId} (hk : k ∈ (performAll calls s).printers.active) : k ≠ g := by
      rintro rfl
      rw [(h.mem k).1 hk] at hclosed
      cases hclosed
    have hactive : (performAll (calls ++ [call]) s).printers.active =
        (performAll calls s).printers.active ++ [g] := congrArg Printers.active hprinters
    refine ⟨fun k => ?_, fun k hk => ?_, ?_⟩
    · rw [hactive, List.mem_append, List.mem_singleton, h.mem]
      by_cases hkg : k = g
      · rw [hkg]
        exact ⟨fun _ => hself, fun _ => .inr rfl⟩
      · rw [hother hkg]
        exact or_iff_left hkg
    · by_cases hkg : k = g
      · exact ⟨_, hkg ▸ hlast⟩
      · obtain ⟨n, hn⟩ := h.exists_last k (hother hkg ▸ hk)
        exact ⟨n, (hothers hkg n).2 hn⟩
    · rw [hactive, List.pairwise_append]
      refine ⟨?_, List.pairwise_singleton _ _, fun k hk k' hk' => ?_⟩
      · exact h.order.imp_of_mem fun hk hk' => hbefore (hothers (hne hk)) (hothers (hne hk'))
      · obtain ⟨n, hn⟩ := h.exists_last k ((h.mem k).1 hk)
        rw [List.mem_singleton.1 hk']
        exact ⟨n, _, (hothers (hne hk) n).2 hn, hlast, hn.1.1⟩
  | closed g hcall hwasOpen hprinters hopen =>
    have hself := (hopen g).trans (if_pos rfl)
    have hother {k : GeneratorId} (hk : k ≠ g) := (hopen k).trans (if_neg hk)
    have hstill {k : GeneratorId} (ht : (performAll (calls ++ [call]) s).isOpen k = true) :
        k ≠ g := by
      rintro rfl
      rw [hself] at ht
      cases ht
    have hall (k : GeneratorId) := hold (g := k) fun ht => hother (hstill ht) ▸ ht
    refine ⟨fun k => ?_, fun k hk => ?_, ?_⟩
    · rw [hprinters, Printers.mem_unsubscribe_iff (h.order.imp OpenedBefore.ne), h.mem]
      by_cases hkg : k = g
      · rw [hkg, hself]
        exact ⟨fun hk => absurd rfl hk.1, nofun⟩
      · rw [hother hkg]
        exact and_iff_right hkg
    · obtain ⟨n, hn⟩ := h.exists_last k (hother (hstill hk) ▸ hk)
      exact ⟨n, (hall k n).2 hn⟩
    · rw [hprinters]
      exact (h.order.imp (hbefore (hall _) (hall _))).sublist (Printers.unsubscribe_sublist g _)

/-- If no printer is active and no generator is open, all calls leave the active printers in
order. -/
theorem subscribed_performAll {s : Session} (hempty : s.printers = .empty)
    (hclosed : ∀ g, s.isOpen g = false) (calls : List Call) : Subscribed s calls := by
  induction calls using List.reverseRecOn with
  | nil =>
    have hnone : (performAll [] s).printers.active = [] := congrArg Printers.active hempty
    have hno (g : GeneratorId) (ho : (performAll [] s).isOpen g = true) : False := by
      rw [show (performAll [] s).isOpen g = false from hclosed g] at ho
      cases ho
    refine ⟨fun g => ⟨fun hg => ?_, fun ho => (hno g ho).elim⟩, fun g ho => (hno g ho).elim, ?_⟩
    · rw [hnone] at hg
      cases hg
    · rw [hnone]
      exact .nil
  | append_singleton calls call ih => exact ih.concat call

/-- The printer in force is that of the generator that was opened last among the open ones. -/
theorem Subscribed.current?_eq_some_iff {s : Session} {calls : List Call} (h : Subscribed s calls)
    (g : GeneratorId) :
    (performAll calls s).printers.current? = some g ↔ (performAll calls s).isOpen g = true ∧
      ∀ k, (performAll calls s).isOpen k = true → k = g ∨ OpenedBefore s calls k g := by
  have hlast {k : GeneratorId} (hk : (performAll calls s).printers.current? = some k) :
      (performAll calls s).isOpen k = true ∧
        ∀ j, (performAll calls s).isOpen j = true → j = k ∨ OpenedBefore s calls j k := by
    obtain ⟨older, holder⟩ := List.getLast?_eq_some_iff.1 hk
    have horder := h.order
    rw [holder, List.pairwise_append] at horder
    refine ⟨(h.mem k).1 (holder ▸ List.mem_append_right _ List.mem_cons_self), fun j hj => ?_⟩
    have hmem := (h.mem j).2 hj
    rw [holder, List.mem_append, List.mem_singleton] at hmem
    exact hmem.symm.imp_right fun hold => horder.2.2 j hold k List.mem_cons_self
  refine ⟨hlast, fun ⟨hopen, hall⟩ => ?_⟩
  cases hc : (performAll calls s).printers.current? with
  | none =>
    have hnil := List.getLast?_eq_none_iff.1 hc
    rw [← h.mem, hnil] at hopen
    cases hopen
  | some k =>
    obtain ⟨hk, hkall⟩ := hlast hc
    rcases hall k hk with rfl | hbefore
    · rfl
    · rcases hkall g hopen with rfl | hafter
      · rfl
      · exact absurd hafter hbefore.asymm

/-- No printer is in force exactly if no generator is open. -/
theorem Subscribed.current?_eq_none_iff {s : Session} {calls : List Call}
    (h : Subscribed s calls) : (performAll calls s).printers.current? = none ↔
      ∀ g, (performAll calls s).isOpen g = false := by
  refine List.getLast?_eq_none_iff.trans (List.eq_nil_iff_forall_not_mem.trans ?_)
  exact forall_congr' fun g => (not_congr (h.mem g)).trans (Bool.not_eq_true _ ▸ Iff.rfl)

/-- A generator is open after some calls if one of them opened it and none after that closed it. -/
theorem Call.isOpen_performAll_iff {s : Session} (hclosed : ∀ g, s.isOpen g = false)
    (calls : List Call) (g : GeneratorId) :
    (performAll calls s).isOpen g = true ↔ ∃ before after,
      calls = before ++ .openScope g :: after ∧
        g < (performAll before s).generators.length ∧ .closeScope g ∉ after := by
  induction calls using List.reverseRecOn with
  | nil =>
    refine ⟨fun ho => ?_, ?_⟩
    · rw [show (performAll [] s).isOpen g = false from hclosed g] at ho
      cases ho
    · rintro ⟨before, after, hsplit, -⟩
      cases before <;> cases hsplit
  | append_singleton calls call ih =>
    rw [performAll_concat, isOpen_perform_iff, ih]
    constructor
    · rintro (⟨rfl, hg⟩ | ⟨⟨before, after, rfl, hg, hafter⟩, hcall⟩)
      · exact ⟨calls, [], rfl, hg, List.not_mem_nil⟩
      · refine ⟨before, after ++ [call], by simp, hg, fun hm => ?_⟩
        rcases List.mem_append.1 hm with hm | hm
        · exact hafter hm
        · exact hcall (List.mem_singleton.1 hm).symm
    · rintro ⟨before, after, hsplit, hg, hafter⟩
      rcases List.eq_nil_or_concat after with rfl | ⟨after, last, rfl⟩
      · obtain ⟨rfl, hlast⟩ := List.append_inj' hsplit rfl
        exact .inl ⟨List.head_eq_of_cons_eq hlast, hg⟩
      · rw [List.concat_eq_append, ← List.cons_append, ← List.append_assoc] at hsplit
        obtain ⟨rfl, hlast⟩ := List.append_inj' hsplit rfl
        rw [List.concat_eq_append, List.mem_append, not_or] at hafter
        refine .inr ⟨⟨before, after, rfl, hg, hafter.1⟩, fun hc => hafter.2 ?_⟩
        exact List.mem_singleton.2 (hc.symm.trans (List.head_eq_of_cons_eq hlast))

/-- From a session without active printers and open generators, whatever is called: generators may
be made, opened and closed in any order, make outputs, and be run, and each of these may end by a
fault. After any number of calls the active printers are those of the open generators, each once, in
the order in which each went from closed to open for the last time; the one in force is that of the
generator that did so last, and there is none if no generator is open. A generator is open if some
call opened it and no later one closed it. -/
theorem performAll_subscriptions {s : Session} (hempty : s.printers = .empty)
    (hclosed : ∀ g, s.isOpen g = false) (calls : List Call) :
    let t := performAll calls s
    (∀ g, g ∈ t.printers.active ↔ t.isOpen g = true) ∧
      t.printers.active.Nodup ∧
      t.printers.active.Pairwise (OpenedBefore s calls) ∧
      (∀ g, t.printers.current? = some g ↔ t.isOpen g = true ∧
        ∀ h, t.isOpen h = true → h = g ∨ OpenedBefore s calls h g) ∧
      (t.printers.current? = none ↔ ∀ g, t.isOpen g = false) ∧
      ∀ g, t.isOpen g = true ↔ ∃ before after, calls = before ++ .openScope g :: after ∧
        g < (performAll before s).generators.length ∧ .closeScope g ∉ after := by
  intro t
  have h := subscribed_performAll hempty hclosed calls
  exact ⟨h.mem, h.order.imp OpenedBefore.ne, h.order, h.current?_eq_some_iff,
    h.current?_eq_none_iff, isOpen_performAll_iff hclosed calls⟩

/-- Calls on two generators: both are opened, the older one fails to make its outputs, is closed
first, a run fails, and then the older one is opened again. -/
def interleaved : List Call :=
  [.create .csharp, .create .cppCli, .openScope 0, .openScope 1,
    .generate 0 ⟨fun _ => Action.fail .name, fun _ _ => rfl⟩, .closeScope 0,
    .run .shipped ⟨fun _ => pure (), fun _ _ => rfl⟩, .openScope 0]

/-- Where a callback fails and a gap ends a run by a fault, the printer of the younger generator is
older in the end than that of the generator that was opened again, which is in force. -/
theorem performAll_subscriptions_interleaved :
    let s := { gapSession with options := ⟨.csharp, false, none, .fail⟩ }
    let succeeds (n : Nat) (call : Call) :=
      (call.perform (performAll (interleaved.take n) s)).1.isOk
    s.printers = .empty ∧ (∀ g, s.isOpen g = false) ∧
    interleaved.zipIdx.map (fun call => succeeds call.2 call.1) =
      [true, true, true, true, false, true, false, true] ∧
    (performAll interleaved s).printers.active = [1, 0] ∧
    OpenedBefore s interleaved 1 0 ∧
    (performAll interleaved s).printers.current? = some 0 := by
  intro s succeeds
  have hclosed : ∀ g, s.isOpen g = false := fun _ => rfl
  obtain ⟨hmem, -, horder, hcurrent, -⟩ := performAll_subscriptions (s := s) rfl hclosed interleaved
  have hactive : (performAll interleaved s).printers.active = [1, 0] := by decide +kernel
  rw [hactive, List.pairwise_pair] at horder
  have hopen (h : GeneratorId) : (performAll interleaved s).isOpen h = true ↔ h = 1 ∨ h = 0 := by
    rw [← hmem, hactive, List.mem_cons, List.mem_singleton]
  refine ⟨rfl, hclosed, by decide +kernel, hactive, horder, ?_⟩
  refine (hcurrent 0).2 ⟨(hopen 0).2 (.inr rfl), fun h hh => ?_⟩
  rcases (hopen h).1 hh with rfl | rfl
  · exact .inr horder
  · exact .inl rfl

end Interop
