import OneCipher.Base.Lines
import OneCipher.Base.Runs
import OneCipher.NetAgent.Approval

/-!
# OneCipher.WebUi.ApprovalQueue — decisions reach their requester at most once

`oc-webui/src/approval_queue.rs` and the replay of `oc-core/src/approval_log.rs`.  A waiting requester holds the
receiving end of a oneshot channel; the sending end lies in the queue entry, and `resolve` takes the entry out of
the map before it looks at the clock and answers.
-/

namespace OneCipher.WebUi

open NetAgent Runs AList List Option

/-! ## The queue -/

/-- What the connected clients are told. -/
inductive WsEvent where
  | pendingApproval (approval : PendingApproval)
  | approvalResolved (id : String) (decision : ApprovalDecision)

/-- One line of the approval log. -/
inductive ApprovalLogEvent where
  | pending (id : String) (time : Nat) (approval : PendingApproval)
  | resolved (id : String) (time : Nat) (decision reason : String)

/-- A waiting approval, with the number of the channel to its requester. -/
structure QueueEntry where
  approval : PendingApproval
  respTx : Option Nat

structure ApprovalQueue where
  pending : Store String QueueEntry
  events : List WsEvent
  log : List ApprovalLogEvent

def decisionStr : ApprovalDecision → String × String
  | .approve => ("approved", "")
  | .reject reason => ("rejected", reason)
  | .timeout => ("timeout", "")

namespace ApprovalQueue

def new : ApprovalQueue := ⟨∅, [], []⟩

/-- `record_resolution`; `logged` is the time on the log line, if one could be written. -/
def recordResolution (logged : Option Nat) (id : String) (decision : ApprovalDecision) (q : ApprovalQueue) :
    ApprovalQueue :=
  let (decisionStr, reason) := decisionStr decision
  { q with
    events := q.events ++ [.approvalResolved id decision]
    log := q.log ++ (logged.map fun now => .resolved id now decisionStr reason).toList }

/-- The first half of `insert`: tell the clients, and write the log. -/
def announce (logged : Option Nat) (approval : PendingApproval) (q : ApprovalQueue) : ApprovalQueue :=
  { q with
    events := q.events ++ [.pendingApproval approval]
    log := q.log ++ (logged.map fun now => .pending approval.id now approval).toList }

/-- The second half: `pending.insert`. -/
def enqueue (approval : PendingApproval) (respTx : Option Nat) (q : ApprovalQueue) : ApprovalQueue :=
  { q with pending := q.pending.insert approval.id ⟨approval, respTx⟩ }

def insert (logged : Option Nat) (approval : PendingApproval) (respTx : Nat) (q : ApprovalQueue) : ApprovalQueue :=
  (q.announce logged approval).enqueue approval (some respTx)

/-- `replay_orphans`: the entries have no channel. -/
def replayOrphans (approvals : List PendingApproval) (q : ApprovalQueue) : ApprovalQueue :=
  approvals.foldl (fun q approval => (q.announce none approval).enqueue approval none) q

end ApprovalQueue

/-- What `resolve` answers the requester, by the clock reading it makes. -/
def answerOf (now : Nat) (decision : ApprovalDecision) (approval : PendingApproval) : ApprovalDecision :=
  if now ≥ approval.expiresAtUnix then .timeout else decision

section Replay

variable (fromStr : String → Option ApprovalLogEvent) (order : List PendingApproval → List PendingApproval)

/-- The loop of `replay_unresolved` on one line; blank and malformed lines are skipped. -/
def replayLine (pendingMap : Store String PendingApproval) (line : List Char) : Store String PendingApproval :=
  if (Lines.trim line).isEmpty then pendingMap else
  match fromStr (String.ofList line) with
  | some (.pending id _ approval) => pendingMap.insert id approval
  | some (.resolved id _ _ _) => pendingMap.erase id
  | none => pendingMap

/-- `replay_unresolved`, with the order in which the hash map gives out its values. -/
def replayUnresolved (content : String) : List PendingApproval :=
  order (((Lines.lines content.toList).foldl (replayLine fromStr) ∅).entries.map Sigma.snd)

end Replay

/-! ## Interleavings -/

/-- The queue and everyone around it. -/
structure Desk where
  queue : ApprovalQueue
  inFlight : Store Nat (ApprovalDecision × QueueEntry)
  received : List (Nat × ApprovalDecision)
  gone : List Nat
  nextChannel : Nat

/-- One step of a call. -/
inductive QueueAct where
  | announce (logged : Option Nat) (approval : PendingApproval)
  | enqueue (approval : PendingApproval)
  | take (thread : Nat) (id : String) (decision : ApprovalDecision)
  | answer (thread now : Nat)
  | record (logged : Option Nat) (id : String) (decision : ApprovalDecision)
  | giveUp (channel : Nat)

variable {d : Desk}

namespace Desk

/-- `tx.send`: nothing arrives where nobody waits. -/
def send (channel : Nat) (decision : ApprovalDecision) (d : Desk) : Desk :=
  if channel ∈ d.gone then d else { d with received := d.received ++ [(channel, decision)] }

/-- `pending.remove`: the thread holds the entry from now on. -/
def take (thread : Nat) (id : String) (decision : ApprovalDecision) (d : Desk) : Desk :=
  match d.inFlight.lookup thread, d.queue.pending.lookup id with
  | none, some entry =>
    { d with
      queue := { d.queue with pending := d.queue.pending.erase id }
      inFlight := d.inFlight.insert thread (decision, entry) }
  -- a thread does one call after the other
  | _, _ => d

def answer (thread now : Nat) (d : Desk) : Desk :=
  match d.inFlight.lookup thread with
  | none => d
  | some (decision, entry) =>
    let d := { d with inFlight := d.inFlight.erase thread }
    match entry.respTx with
    | some tx => d.send tx (answerOf now decision entry.approval)
    | none => d

def act (d : Desk) : QueueAct → Desk
  | .announce logged approval => { d with queue := d.queue.announce logged approval }
  | .enqueue approval =>
    { d with queue := d.queue.enqueue approval (some d.nextChannel), nextChannel := d.nextChannel + 1 }
  | .take thread id decision => d.take thread id decision
  | .answer thread now => d.answer thread now
  | .record logged id decision => { d with queue := d.queue.recordResolution logged id decision }
  | .giveUp channel => { d with gone := channel :: d.gone }

def start (orphans : List PendingApproval) : Desk := ⟨ApprovalQueue.new.replayOrphans orphans, ∅, [], [], 0⟩

/-! ## The steps of a call -/

theorem insert_eq_after (logged : Option Nat) (approval : PendingApproval) (d : Desk) :
    (after act d [.announce logged approval, .enqueue approval]).queue =
      d.queue.insert logged approval d.nextChannel := rfl

variable {decision : ApprovalDecision} {c thread : Nat} {e : QueueEntry} {id : String}

theorem take_of_lookup {entry : QueueEntry} (decision : ApprovalDecision) (hidle : d.inFlight.lookup thread = none)
    (hl : d.queue.pending.lookup id = some entry) :
    d.take thread id decision =
      { d with
        queue := { d.queue with pending := d.queue.pending.erase id }
        inFlight := d.inFlight.insert thread (decision, entry) } := by
  unfold take
  rw [hidle, hl]

theorem answer_of_lookup {entry : QueueEntry} (now : Nat) (hl : d.inFlight.lookup thread = some (decision, entry)) :
    d.answer thread now =
      entry.respTx.elim { d with inFlight := d.inFlight.erase thread }
        fun tx => send tx (answerOf now decision entry.approval) { d with inFlight := d.inFlight.erase thread } := by
  unfold answer
  simp only [hl]
  cases entry.respTx <;> rfl

@[simp] theorem queue_send (channel : Nat) (decision : ApprovalDecision) (d : Desk) :
    (d.send channel decision).queue = d.queue := by
  unfold send
  split <;> rfl

@[simp] theorem inFlight_send (channel : Nat) (decision : ApprovalDecision) (d : Desk) :
    (d.send channel decision).inFlight = d.inFlight := by
  unfold send
  split <;> rfl

theorem mem_received_send {channel : Nat} {x : ApprovalDecision} (h : (c, x) ∈ (d.send channel decision).received) :
    (c, x) ∈ d.received ∨ c = channel ∧ x = decision := by
  unfold send at h
  split at h
  · exact .inl h
  · rcases mem_append.mp h with h | h
    · exact .inl h
    · exact .inr (Prod.mk.inj (mem_singleton.mp h))

variable {d : Desk} {a : QueueAct}

theorem replayOrphans_respTx {orphans : List PendingApproval} {q : ApprovalQueue}
    (hq : ∀ id e, q.pending.lookup id = some e → e.respTx = none)
    (h : (q.replayOrphans orphans).pending.lookup id = some e) : e.respTx = none := by
  induction orphans generalizing q with
  | nil => exact hq id e h
  | cons approval _ ih =>
    refine ih ?_ h
    intro id' e' h'
    by_cases hid : id' = approval.id
    · subst hid
      rw [← Option.some.inj ((lookup_insert _).symm.trans h')]
    · exact hq id' e' ((lookup_insert_ne hid).symm.trans h')

theorem start_respTx {orphans : List PendingApproval} (h : (start orphans).queue.pending.lookup id = some e) :
    e.respTx = none :=
  replayOrphans_respTx (fun _ _ h => by cases h) h

theorem pending_act (h : (d.act a).queue.pending.lookup id = some e) :
    d.queue.pending.lookup id = some e ∨
      ∃ approval, a = .enqueue approval ∧ id = approval.id ∧ e = ⟨approval, some d.nextChannel⟩ := by
  cases a with
  | announce | record | giveUp => exact .inl h
  | enqueue approval =>
    by_cases hid : id = approval.id
    · subst hid
      exact .inr ⟨approval, rfl, rfl, (Option.some.inj ((lookup_insert _).symm.trans h)).symm⟩
    · exact .inl ((lookup_insert_ne hid).symm.trans h)
  | take _ id' =>
    simp only [act, take] at h
    split at h
    · by_cases hid : id = id'
      · subst hid
        cases (lookup_erase _ _).symm.trans h
      · exact .inl ((lookup_erase_ne hid).symm.trans h)
    · exact .inl h
  | answer =>
    refine .inl ?_
    simp only [act, answer] at h
    split at h
    · exact h
    · split at h
      · rwa [queue_send] at h
      · exact h

theorem inFlight_act (h : (d.act a).inFlight.lookup thread = some (decision, e)) :
    d.inFlight.lookup thread = some (decision, e) ∨
      ∃ id, a = .take thread id decision ∧ d.queue.pending.lookup id = some e := by
  cases a with
  | announce | enqueue | record | giveUp => exact .inl h
  | take thread' id decision' =>
    simp only [act, take] at h
    split at h
    · next entry hidle hl =>
      by_cases ht : thread = thread'
      · subst ht
        rw [lookup_insert] at h
        cases h
        exact .inr ⟨id, rfl, hl⟩
      · exact .inl ((lookup_insert_ne ht).symm.trans h)
    · exact .inl h
  | answer thread' =>
    refine .inl ?_
    simp only [act, answer] at h
    split at h
    · exact h
    · have herase : (AList.erase thread' d.inFlight).lookup thread = some (decision, e) := by
        split at h
        · rwa [inFlight_send] at h
        · exact h
      by_cases ht : thread = thread'
      · subst ht
        cases (lookup_erase _ _).symm.trans herase
      · exact (lookup_erase_ne ht).symm.trans herase

theorem received_act {x : ApprovalDecision} (h : (c, x) ∈ (d.act a).received) :
    (c, x) ∈ d.received ∨ ∃ thread now decision e, a = .answer thread now ∧
      d.inFlight.lookup thread = some (decision, e) ∧ e.respTx = some c ∧ x = answerOf now decision e.approval := by
  cases a with
  | announce | enqueue | record | giveUp => exact .inl h
  | take =>
    simp only [act, take] at h
    split at h <;> exact .inl h
  | answer thread now =>
    simp only [act, answer] at h
    split at h
    · exact .inl h
    · next decision entry hl =>
      split at h
      · next tx htx =>
        rcases mem_received_send h with h | ⟨rfl, rfl⟩
        · exact .inl h
        · exact .inr ⟨thread, now, decision, entry, rfl, hl, htx, rfl⟩
      · exact .inl h

/-! ## Who holds a channel -/

/-- A sending end lies in the queue, or with a thread. -/
inductive Holder where
  | queue (id : String)
  | thread (number : Nat)
  deriving DecidableEq

def holds (d : Desk) : Holder → Option Nat
  | .queue id => (d.queue.pending.lookup id).bind (·.respTx)
  | .thread number => (d.inFlight.lookup number).bind (·.2.respTx)

/-- Every channel has one sending end, and it is used up by sending. -/
structure Sound (d : Desk) : Prop where
  one : ∀ h₁ h₂ c, d.holds h₁ = some c → d.holds h₂ = some c → h₁ = h₂
  unused : ∀ h c, d.holds h = some c → ∀ x, (c, x) ∉ d.received
  made : ∀ h c, d.holds h = some c → c < d.nextChannel
  once : (d.received.map Prod.fst).Nodup
  madeReceived : ∀ c x, (c, x) ∈ d.received → c < d.nextChannel

theorem sound_start (orphans : List PendingApproval) : (start orphans).Sound := by
  have hnone : ∀ h c, (start orphans).holds h ≠ some c := by
    intro h c hc
    cases h with
    | queue =>
      obtain ⟨e, he, htx⟩ := bind_eq_some_iff.mp hc
      rw [start_respTx he] at htx
      cases htx
    | thread => cases hc
  exact ⟨fun h₁ _ c h => absurd h (hnone h₁ c), fun h c hc => absurd hc (hnone h c), fun h c hc => absurd hc (hnone h c),
    nodup_nil, fun c x h => absurd h not_mem_nil⟩

theorem Sound.of_moved {d' : Desk} (hd : d.Sound) (move : Holder → Holder)
    (hmove : ∀ h c, d'.holds h = some c → d.holds (move h) = some c)
    (hinj : ∀ h₁ h₂ c, d'.holds h₁ = some c → d'.holds h₂ = some c → move h₁ = move h₂ → h₁ = h₂)
    (hreceived : d'.received = d.received) (hnext : d'.nextChannel = d.nextChannel) : d'.Sound where
  one h₁ h₂ c hc₁ hc₂ := hinj h₁ h₂ c hc₁ hc₂ (hd.one _ _ c (hmove h₁ c hc₁) (hmove h₂ c hc₂))
  unused h c hc := by
    rw [hreceived]
    exact hd.unused _ c (hmove h c hc)
  made h c hc := by
    rw [hnext]
    exact hd.made _ c (hmove h c hc)
  once := by
    rw [hreceived]
    exact hd.once
  madeReceived := by
    rw [hreceived, hnext]
    exact hd.madeReceived

theorem Sound.of_subset {d' : Desk} (hd : d.Sound) (hsub : ∀ h c, d'.holds h = some c → d.holds h = some c)
    (hreceived : d'.received = d.received) (hnext : d'.nextChannel = d.nextChannel) : d'.Sound :=
  hd.of_moved id hsub (fun _ _ _ _ _ h => h) hreceived hnext

theorem Sound.send (hd : d.Sound) (hfree : ∀ h, d.holds h ≠ some c) (hunused : ∀ x, (c, x) ∉ d.received)
    (hmade : c < d.nextChannel) (x : ApprovalDecision) : (d.send c x).Sound := by
  unfold Desk.send
  split
  · exact hd
  · have hmem : ∀ {c' x'}, (c', x') ∈ d.received ++ [(c, x)] → (c', x') ∈ d.received ∨ c' = c := by
      intro c' x' h
      rcases mem_append.mp h with h | h
      · exact .inl h
      · exact .inr (Prod.mk.inj (mem_singleton.mp h)).1
    refine ⟨hd.one, fun h c' hc x' hx => ?_, hd.made, ?_, fun c' x' hx => ?_⟩
    · rcases hmem hx with hx | rfl
      · exact hd.unused h c' hc x' hx
      · exact hfree h hc
    · rw [map_append]
      refine List.Nodup.append hd.once (nodup_singleton c) ?_
      rw [map_singleton, disjoint_singleton]
      intro hc
      obtain ⟨⟨_, x'⟩, hx, rfl⟩ := List.mem_map.mp hc
      exact hunused x' hx
    · rcases hmem hx with hx | rfl
      · exact hd.madeReceived c' x' hx
      · exact hmade

theorem Sound.enqueue (hd : d.Sound) (approval : PendingApproval) : (d.act (.enqueue approval)).Sound := by
  have hnew : (d.act (.enqueue approval)).holds (.queue approval.id) = some d.nextChannel := by
    show (AList.lookup approval.id (AList.insert approval.id _ d.queue.pending)).bind _ = _
    rw [lookup_insert]
    rfl
  have hold : ∀ h, h ≠ .queue approval.id → (d.act (.enqueue approval)).holds h = d.holds h := by
    intro h hne
    cases h with
    | queue id =>
      have hid : id ≠ approval.id := fun hid => hne (congrArg Holder.queue hid)
      show (AList.lookup id (AList.insert approval.id _ d.queue.pending)).bind _ = _
      rw [lookup_insert_ne hid]
      rfl
    | thread => rfl
  have hcases : ∀ h c, (d.act (.enqueue approval)).holds h = some c →
      (h = .queue approval.id ∧ c = d.nextChannel) ∨ (h ≠ .queue approval.id ∧ d.holds h = some c) := by
    intro h c hc
    by_cases hh : h = .queue approval.id
    · subst hh
      exact .inl ⟨rfl, Option.some.inj (hc.symm.trans hnew)⟩
    · exact .inr ⟨hh, (hold h hh).symm.trans hc⟩
  refine ⟨fun h₁ h₂ c hc₁ hc₂ => ?_, fun h c hc x hx => ?_, fun h c hc => ?_, hd.once,
    fun c x hx => (hd.madeReceived c x hx).trans (Nat.lt_succ_self _)⟩
  · rcases hcases h₁ c hc₁ with ⟨rfl, rfl⟩ | ⟨hne₁, hc₁⟩
    · rcases hcases h₂ _ hc₂ with ⟨rfl, -⟩ | ⟨-, hc₂⟩
      · rfl
      · exact absurd (hd.made h₂ _ hc₂) (lt_irrefl _)
    · rcases hcases h₂ _ hc₂ with ⟨rfl, rfl⟩ | ⟨-, hc₂⟩
      · exact absurd (hd.made h₁ _ hc₁) (lt_irrefl _)
      · exact hd.one h₁ h₂ c hc₁ hc₂
  · rcases hcases h c hc with ⟨-, rfl⟩ | ⟨-, hc⟩
    · exact absurd (hd.madeReceived _ x hx) (lt_irrefl _)
    · exact hd.unused h c hc x hx
  · rcases hcases h c hc with ⟨-, rfl⟩ | ⟨-, hc⟩
    · exact Nat.lt_succ_self _
    · exact (hd.made h c hc).trans (Nat.lt_succ_self _)

theorem Sound.take (hd : d.Sound) (thread : Nat) (id : String) (decision : ApprovalDecision) :
    (d.take thread id decision).Sound := by
  cases hidle : d.inFlight.lookup thread with
  | some =>
    unfold Desk.take
    rw [hidle]
    exact hd
  | none =>
    cases hl : d.queue.pending.lookup id with
    | none =>
      unfold Desk.take
      rw [hidle, hl]
      exact hd
    | some entry =>
      rw [take_of_lookup decision hidle hl]
      -- the sending end moves from the queue to the thread
      have hcases : ∀ h c, holds { d with
            queue := { d.queue with pending := d.queue.pending.erase id }
            inFlight := d.inFlight.insert thread (decision, entry) } h = some c →
          (h = .thread thread ∧ d.holds (.queue id) = some c) ∨
            (h ≠ .thread thread ∧ h ≠ .queue id ∧ d.holds h = some c) := by
        intro h c hc
        cases h with
        | queue id' =>
          by_cases hid : id' = id
          · subst hid
            simp only [holds, lookup_erase, bind_none] at hc
            cases hc
          · simp only [holds, lookup_erase_ne hid] at hc
            exact .inr ⟨by simp, fun h => hid (Holder.queue.inj h), hc⟩
        | thread number =>
          by_cases hn : number = thread
          · subst hn
            simp only [holds, lookup_insert, bind_some] at hc
            refine .inl ⟨rfl, ?_⟩
            simp only [holds, hl, bind_some]
            exact hc
          · simp only [holds, lookup_insert_ne hn] at hc
            exact .inr ⟨fun h => hn (Holder.thread.inj h), by simp, hc⟩
      refine hd.of_moved (fun h => if h = .thread thread then .queue id else h) (fun h c hc => ?_) ?_ rfl rfl
      · rcases hcases h c hc with ⟨rfl, hq⟩ | ⟨hne, -, hq⟩
        · rw [if_pos rfl]
          exact hq
        · rw [if_neg hne]
          exact hq
      · intro h₁ h₂ c hc₁ hc₂ heq
        rcases hcases h₁ c hc₁ with ⟨rfl, -⟩ | ⟨hne₁, hq₁, -⟩
        · rcases hcases h₂ c hc₂ with ⟨rfl, -⟩ | ⟨hne₂, hq₂, -⟩
          · rfl
          · rw [if_pos rfl, if_neg hne₂] at heq
            exact absurd heq.symm hq₂
        · rcases hcases h₂ c hc₂ with ⟨rfl, -⟩ | ⟨hne₂, hq₂, -⟩
          · rw [if_neg hne₁, if_pos rfl] at heq
            exact absurd heq hq₁
          · rwa [if_neg hne₁, if_neg hne₂] at heq

theorem Sound.answer (hd : d.Sound) (thread now : Nat) : (d.answer thread now).Sound := by
  cases hl : d.inFlight.lookup thread with
  | none =>
    unfold Desk.answer
    rw [hl]
    exact hd
  | some p =>
    obtain ⟨decision, entry⟩ := p
    rw [answer_of_lookup now hl]
    have hsub : ∀ h c, holds { d with inFlight := d.inFlight.erase thread } h = some c →
        h ≠ .thread thread ∧ d.holds h = some c := by
      intro h c hc
      cases h with
      | queue => exact ⟨by simp, hc⟩
      | thread number =>
        by_cases hn : number = thread
        · subst hn
          simp only [holds, lookup_erase, bind_none] at hc
          cases hc
        · simp only [holds, lookup_erase_ne hn] at hc
          exact ⟨fun h => hn (Holder.thread.inj h), hc⟩
    have herased : Sound { d with inFlight := d.inFlight.erase thread } :=
      hd.of_subset (fun h c hc => (hsub h c hc).2) rfl rfl
    cases htx : entry.respTx with
    | none => exact herased
    | some tx =>
      have hheld : d.holds (.thread thread) = some tx := by
        simp only [holds, hl, bind_some]
        exact htx
      refine herased.send (fun h hc => ?_) (hd.unused _ tx hheld) (hd.made _ tx hheld) _
      obtain ⟨hne, hc⟩ := hsub h tx hc
      exact hne (hd.one _ _ tx hc hheld)

theorem Sound.act (hd : d.Sound) (a : QueueAct) : (d.act a).Sound := by
  cases a with
  | announce | record | giveUp => exact hd.of_subset (fun _ _ h => h) rfl rfl
  | enqueue approval => exact hd.enqueue approval
  | take thread id decision => exact hd.take thread id decision
  | answer thread now => exact hd.answer thread now

theorem sound_after (orphans : List PendingApproval) (acts : List QueueAct) : (after act (start orphans) acts).Sound :=
  after_invariant (fun _ a h => h.act a) (sound_start orphans)

/-! ## Where a delivery comes from -/

section Provenance

variable {orphans : List PendingApproval} {acts : List QueueAct}

/-- The request was inserted with the channel, a `resolve` of its id took the entry, and the same call answered. -/
def GoesBack (orphans : List PendingApproval) (acts : List QueueAct) (c : Nat) (approval : PendingApproval)
    (decision : ApprovalDecision) (now : Nat) : Prop :=
  ∃ thread before between during later,
    acts = before ++ .enqueue approval :: (between ++ .take thread approval.id decision ::
      (during ++ .answer thread now :: later)) ∧
    (after act (start orphans) before).nextChannel = c ∧
    (after act (start orphans) (before ++ .enqueue approval :: between)).queue.pending.lookup approval.id =
      some ⟨approval, some c⟩ ∧
    ∀ now', .answer thread now' ∉ during

theorem lookup_inFlight_answer (d : Desk) (thread now : Nat) : (d.answer thread now).inFlight.lookup thread = none := by
  unfold answer
  split
  · assumption
  · split
    · rw [inFlight_send]
      exact lookup_erase _ _
    · exact lookup_erase _ _

theorem exists_enqueue (htx : e.respTx = some c)
    (h : (after act (start orphans) acts).queue.pending.lookup id = some e) :
    ∃ before between, acts = before ++ .enqueue e.approval :: between ∧ id = e.approval.id ∧
      (after act (start orphans) before).nextChannel = c := by
  have h0 : ¬ (start orphans).queue.pending.lookup id = some e := by
    intro h
    rw [start_respTx h] at htx
    cases htx
  obtain ⟨before, a, between, rfl, hbefore, hlater⟩ :=
    exists_last_change (P := fun d : Desk => d.queue.pending.lookup id = some e) h0 h
  have hstep := hlater [] nil_prefix
  rw [after_snoc] at hstep
  rcases pending_act hstep with h | ⟨approval, rfl, rfl, rfl⟩
  · exact absurd h hbefore
  · exact ⟨before, between, rfl, rfl, Option.some.inj htx⟩

theorem exists_take (h : (after act (start orphans) acts).inFlight.lookup thread = some (decision, e)) :
    ∃ before id during, acts = before ++ .take thread id decision :: during ∧
      (after act (start orphans) before).queue.pending.lookup id = some e ∧ ∀ now', .answer thread now' ∉ during := by
  have h0 : ¬ (start orphans).inFlight.lookup thread = some (decision, e) := nofun
  obtain ⟨before, a, during, rfl, hbefore, hlater⟩ :=
    exists_last_change (P := fun d : Desk => d.inFlight.lookup thread = some (decision, e)) h0 h
  have hstep := hlater [] nil_prefix
  rw [after_snoc] at hstep
  rcases inFlight_act hstep with h | ⟨id, rfl, hid⟩
  · exact absurd h hbefore
  · refine ⟨before, id, during, rfl, hid, fun now' hmem => ?_⟩
    -- an answer would have given the entry away
    obtain ⟨mid, rest, rfl⟩ := append_of_mem hmem
    have hheld := hlater (mid ++ [.answer thread now']) ⟨rest, by rw [append_assoc]; rfl⟩
    rw [← cons_append, ← append_assoc, after_snoc] at hheld
    rw [show act _ (.answer thread now') = answer thread now' _ from rfl, lookup_inFlight_answer] at hheld
    cases hheld

theorem goesBack_of_received {x : ApprovalDecision} (h : (c, x) ∈ (after act (start orphans) acts).received) :
    ∃ approval decision now, GoesBack orphans acts c approval decision now ∧ x = answerOf now decision approval := by
  obtain ⟨before, a, later, rfl, hbefore, hlater⟩ :=
    exists_last_change (P := fun d : Desk => (c, x) ∈ d.received) not_mem_nil h
  have hstep := hlater [] nil_prefix
  rw [after_snoc] at hstep
  rcases received_act hstep with h | ⟨thread, now, decision, e, rfl, hflight, htx, rfl⟩
  · exact absurd h hbefore
  · obtain ⟨before, id, during, rfl, hid, hduring⟩ := exists_take hflight
    obtain ⟨before, between, rfl, rfl, hc⟩ := exists_enqueue htx hid
    refine ⟨e.approval, decision, now, ⟨thread, before, between, during, later, ?_, hc, ?_, hduring⟩, rfl⟩
    · simp only [append_assoc, cons_append]
    · rw [hid, ← htx]

end Provenance

/-- **Each requester gets at most one decision**, whatever log was replayed and however the calls interleave.  It is
an approval only if a `resolve` approved that id with a clock reading before the expiry, and every delivery goes
back to an inserted request: orphans deliver nothing. -/
theorem approval_delivered_once (fromStr : String → Option ApprovalLogEvent)
    (order : List PendingApproval → List PendingApproval) (content : String) (acts : List QueueAct) :
    let orphans := replayUnresolved fromStr order content
    let d := after act (start orphans) acts
    (∀ c, (d.received.filter (·.1 == c)).length ≤ 1) ∧
      (∀ c, (c, .approve) ∈ d.received →
        ∃ approval now, GoesBack orphans acts c approval .approve now ∧ now < approval.expiresAtUnix) ∧
      ∀ c x, (c, x) ∈ d.received → ∃ approval decision now, GoesBack orphans acts c approval decision now := by
  intro orphans d
  refine ⟨fun c => ?_, fun c h => ?_, fun c x h => ?_⟩
  · have hnodup := (sound_after orphans acts).once
    have hcount := nodup_iff_count_le_one.mp hnodup c
    rwa [count_eq_countP, countP_map, countP_eq_length_filter] at hcount
  · obtain ⟨approval, decision, now, hback, hx⟩ := goesBack_of_received h
    unfold answerOf at hx
    split at hx
    · cases hx
    · next hnow =>
      subst hx
      exact ⟨approval, now, hback, not_le.mp hnow⟩
  · obtain ⟨approval, decision, now, hback, -⟩ := goesBack_of_received h
    exact ⟨approval, decision, now, hback⟩

def samplePending : PendingApproval :=
  ⟨"a1", "eth_sendTransaction", .null, "dApp", "https://dapp.example", "eip155:1", .safe, [], none, none, 0, 100⟩

-- two tabs decide: the first to take the entry is the one that is heard
example : (after act (start []) [.enqueue samplePending, .take 7 "a1" .approve, .take 8 "a1" (.reject "no"),
    .answer 8 99, .answer 7 99]).received = [(0, .approve)] := by decide

end Desk

end OneCipher.WebUi
