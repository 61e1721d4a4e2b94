import StTools.DiaProxy.ClientThread

/-!
# The loop of `sendPendingMessage`

The loop sends the messages of a queue one after the other.  It ends when the queue is empty, when
`send` fails, and when `send` takes a part of a message only.  A message without bytes is neither sent
nor taken off, so the loop stays at it.
-/

namespace DiaProxy

/-- `send`, called for the message, makes the loop end: it fails, or takes a part of the message. -/
def Message.StopsAt (m : Message) : SendResult → Prop
  | .wrote n errno => n < m.messageLen - m.bytesSent ∧ ¬ (n = 0 ∧ errno = 0)
  | .failed _ => True

instance (m : Message) (r : SendResult) : Decidable (m.StopsAt r) := by
  cases r <;> unfold Message.StopsAt <;> infer_instance

/-- The variables of the loop. -/
structure SendLoop where
  /-- The shared data. -/
  proxy : Proxy
  /-- How often `send` was called. -/
  sends : ℕ

/-- One pass of the loop; `results` says what the calls of `send` return and when. -/
def sendLoopPass (socket : ℤ) (results : ℕ → SendResult × ℕ) (l : SendLoop) : SendLoop ⊕ Proxy :=
  match l.proxy.mPendingToSend.lookup socket with
  | none => .inr l.proxy
  | some [] => .inr l.proxy
  | some (m :: _) =>
    let result := results l.sends
    let pass := l.proxy.sendPass socket result.1 result.2
    if pass.2 then .inl ⟨pass.1, if m.messageLen = 0 then l.sends else l.sends + 1⟩
    else .inr pass.1

/-- Before every message without bytes stands one at which the loop ends. -/
def EndsBeforeEmpty (queue : List Message) (results : ℕ → SendResult) : Prop :=
  ∀ (i : ℕ) (m : Message), queue[i]? = some m → m.messageLen = 0 →
    ∃ j < i, ∃ m', queue[j]? = some m' ∧ Message.StopsAt m' (results j)

section Pass

variable {socket : ℤ} {results : ℕ → SendResult × ℕ} {l : SendLoop} {m : Message}
  {rest : List Message}

/-- The pass at a message without bytes changes nothing. -/
lemma sendLoopPass_of_messageLen_eq_zero
    (h : l.proxy.mPendingToSend.lookup socket = some (m :: rest)) (hm : m.messageLen = 0) :
    sendLoopPass socket results l = .inl l := by
  have hpass : l.proxy.sendPass socket (results l.sends).1 (results l.sends).2 =
      (l.proxy, true) := by
    rw [Proxy.sendPass, h]
    exact if_pos hm
  rw [sendLoopPass, h]
  dsimp only
  rw [hpass, if_pos rfl, if_pos hm]

/-- The pass at a message at which the loop ends. -/
lemma sendLoopPass_of_stopsAt (h : l.proxy.mPendingToSend.lookup socket = some (m :: rest))
    (hm : m.messageLen ≠ 0) (hstop : m.StopsAt (results l.sends).1) :
    ∃ s, sendLoopPass socket results l = .inr s := by
  have hpass : (l.proxy.sendPass socket (results l.sends).1 (results l.sends).2).2 = false := by
    rw [Proxy.sendPass, h]
    dsimp only
    rw [if_neg hm]
    cases hresult : (results l.sends).1 with
    | wrote n errno =>
      rw [hresult] at hstop
      dsimp only
      rw [if_neg (Nat.not_le.mpr hstop.1), if_neg hstop.2]
    | failed errno =>
      dsimp only
      split <;> rfl
  rw [sendLoopPass, h]
  dsimp only
  rw [hpass]
  exact ⟨_, if_neg Bool.false_ne_true⟩

/-- The pass at any other message takes it off. -/
lemma sendLoopPass_of_not_stopsAt (h : l.proxy.mPendingToSend.lookup socket = some (m :: rest))
    (hm : m.messageLen ≠ 0) (hgo : ¬ m.StopsAt (results l.sends).1) :
    ∃ s, sendLoopPass socket results l = .inl ⟨s, l.sends + 1⟩ ∧
      s.mPendingToSend.lookup socket = some rest := by
  have hpop : (l.proxy.mPendingToSend.popFront socket).lookup socket = some rest := by
    rw [QueueMap.popFront, QueueMap.lookup_mapQueue_self, h]
    rfl
  obtain ⟨s, hpass, hs⟩ : ∃ s, l.proxy.sendPass socket (results l.sends).1 (results l.sends).2 =
      (s, true) ∧ s.mPendingToSend = l.proxy.mPendingToSend.popFront socket := by
    rw [Proxy.sendPass, h]
    dsimp only
    rw [if_neg hm]
    cases hresult : (results l.sends).1 with
    | wrote n errno =>
      rw [hresult] at hgo
      dsimp only
      by_cases hall : m.messageLen - m.bytesSent ≤ n
      · rw [if_pos hall]
        exact ⟨_, rfl, rfl⟩
      · have hzero : n = 0 ∧ errno = 0 := by
          by_contra hzero
          exact hgo ⟨Nat.lt_of_not_le hall, hzero⟩
        rw [if_neg hall, if_pos hzero]
        exact ⟨_, rfl, rfl⟩
    | failed errno =>
      rw [hresult] at hgo
      exact absurd trivial hgo
  refine ⟨s, ?_, by rw [hs, hpop]⟩
  rw [sendLoopPass, h]
  dsimp only
  rw [hpass, if_pos rfl, if_neg hm]

end Pass

/-- The condition, when the loop takes the first message off. -/
lemma endsBeforeEmpty_cons {m : Message} {rest : List Message} {results : ℕ → SendResult}
    (hm : m.messageLen ≠ 0) (hgo : ¬ m.StopsAt (results 0)) :
    EndsBeforeEmpty (m :: rest) results ↔ EndsBeforeEmpty rest fun j => results (j + 1) := by
  constructor
  · intro h i m' hi hm'
    obtain ⟨j, hj, m'', hm'', hstop⟩ := h (i + 1) m' (by simpa using hi) hm'
    cases j with
    | zero =>
      cases hm''
      exact absurd hstop hgo
    | succ j => exact ⟨j, Nat.lt_of_succ_lt_succ hj, m'', by simpa using hm'', hstop⟩
  · intro h i m' hi hm'
    cases i with
    | zero =>
      cases hi
      exact absurd hm' hm
    | succ i =>
      obtain ⟨j, hj, m'', hm'', hstop⟩ := h i m' (by simpa using hi) hm'
      exact ⟨j + 1, Nat.succ_lt_succ hj, m'', by simpa using hm'', hstop⟩

/-- From any call of `send` on, the loop returns under the condition on the messages that are left. -/
lemma sendLoop_returns_iff {socket : ℤ} {results : ℕ → SendResult × ℕ} {queue : List Message}
    {l : SendLoop} (h : l.proxy.mPendingToSend.lookup socket = some queue) :
    (∃ s, WhileLoop.Returns (sendLoopPass socket results) l s) ↔
      EndsBeforeEmpty queue fun j => (results (l.sends + j)).1 := by
  induction queue generalizing l with
  | nil =>
    have hpass : sendLoopPass socket results l = .inr l.proxy := by
      rw [sendLoopPass, h]
    refine iff_of_true ⟨_, (WhileLoop.returns_of_exit hpass).mpr rfl⟩ ?_
    intro i m hi
    simp at hi
  | cons m rest ih =>
    by_cases hm : m.messageLen = 0
    · -- the loop stays at the message
      have hstay : WhileLoop.Diverges (sendLoopPass socket results) l := by
        refine WhileLoop.diverges_of_invariant (I := fun t => t = l) ?_ rfl
        rintro t rfl
        exact ⟨t, sendLoopPass_of_messageLen_eq_zero h hm, rfl⟩
      refine iff_of_false (fun ⟨s, hs⟩ => hstay.not_returns hs) fun hend => ?_
      obtain ⟨j, hj, -⟩ := hend 0 m rfl hm
      exact absurd hj (Nat.not_lt_zero j)
    by_cases hstop : m.StopsAt (results l.sends).1
    · obtain ⟨s, hpass⟩ := sendLoopPass_of_stopsAt h hm hstop
      refine iff_of_true ⟨s, (WhileLoop.returns_of_exit hpass).mpr rfl⟩ fun i m' hi hm' => ?_
      cases i with
      | zero =>
        cases hi
        exact absurd hm' hm
      | succ i => exact ⟨0, Nat.succ_pos i, m, rfl, hstop⟩
    · obtain ⟨s, hpass, hs⟩ := sendLoopPass_of_not_stopsAt h hm hstop
      rw [endsBeforeEmpty_cons hm hstop]
      have hrest := ih (l := ⟨s, l.sends + 1⟩) hs
      have hshift : (fun j => (results (l.sends + 1 + j)).1) =
          fun j => (results (l.sends + (j + 1))).1 := by
        funext j
        rw [Nat.add_assoc, Nat.add_comm 1 j]
      rw [← hshift, ← hrest]
      exact exists_congr fun r => WhileLoop.returns_of_continue hpass

/-- **When `sendPendingMessage` returns.**  For every queue and every sequence of results of `send`, the
loop makes finitely many passes exactly when before every message without bytes stands one at which
it ends. -/
theorem sendPendingMessage_returns_iff (s : Proxy) (socket : ℤ) (results : ℕ → SendResult × ℕ) :
    (∃ s', WhileLoop.Returns (sendLoopPass socket results) ⟨s, 0⟩ s') ↔
      EndsBeforeEmpty (s.queueOf socket) fun j => (results j).1 := by
  cases h : s.mPendingToSend.lookup socket with
  | none =>
    have hpass : sendLoopPass socket results ⟨s, 0⟩ = .inr s := by
      rw [sendLoopPass, h]
    refine iff_of_true ⟨s, (WhileLoop.returns_of_exit hpass).mpr rfl⟩ ?_
    intro i m hi
    rw [Proxy.queueOf, h] at hi
    simp at hi
  | some queue =>
    have hqueue : s.queueOf socket = queue := by
      rw [Proxy.queueOf, h]
      rfl
    rw [hqueue, sendLoop_returns_iff h]
    simp only [Nat.zero_add]

/-! ## A message of length zero -/

/-- A proxy with a client and a connected server. -/
def connectedProxy : Proxy :=
  { Proxy.init .twoTransactions with
    vClient := [{ sock := 4, status := .online, pos := 0, diaServerConnection := 0, conn := some 0 }]
    vConnections := [{ status := .connected, sockId := 5, pos := 0 }]
    mPendingToSend := QueueMap.openQueue (QueueMap.openQueue ∅ 4) 5
    accepted := 1 }

/-- The proxy after a request of the client with a length field of zero. -/
def emptyRequestQueued : Proxy :=
  (connectedProxy.clientMessage 0 0 0 0 (fun _ => 0) 0 0).1

/-- A request with a length field of zero is queued for the server, and the loop that should send it
never ends. -/
theorem emptyRequest_hangs :
    (emptyRequestQueued.queueOf 5).map Message.messageLen = [0] ∧
      ∀ results, WhileLoop.Diverges (sendLoopPass 5 results) ⟨emptyRequestQueued, 0⟩ := by
  have hlen : (emptyRequestQueued.queueOf 5).map Message.messageLen = [0] := by decide
  refine ⟨hlen, fun results => ?_⟩
  obtain ⟨m, hm⟩ : ∃ m, emptyRequestQueued.mPendingToSend.lookup 5 = some [m] := ⟨_, rfl⟩
  have hzero : m.messageLen = 0 := by
    rw [Proxy.queueOf, hm] at hlen
    exact (List.cons.inj hlen).1
  refine WhileLoop.diverges_of_invariant (I := fun t => t = ⟨emptyRequestQueued, 0⟩) ?_ rfl
  rintro t rfl
  exact ⟨_, sendLoopPass_of_messageLen_eq_zero hm hzero, rfl⟩

end DiaProxy
