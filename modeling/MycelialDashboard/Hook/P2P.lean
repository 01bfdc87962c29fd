import MycelialDashboard.P2P.Messages
import MycelialDashboard.Connection.Machine

/-!
# `useP2P` as a whole

`P2PHook` is everything the hook holds: the connection refs (`Conn`), the state of `useState`,
the REST requests in flight and the frames it sent. `useP2P.step` runs one event: a call or a
browser event of the connection machine, with the hook's reactions to what it did (`react`:
`onopen` sets `connected` and starts `fetchInfo` and `fetchPeers`, `onclose` clears
`connected`); a frame on an open socket; a REST request settling; `sendChat`; and
`refreshPeers`. It returns `none` when an updater throws while React renders: the hook is gone.
`run_conn` says that on the events of the connection machine the refs are those of `Conn.run`.

`useP2P.Reachable` is every state a run from mount reaches. `useP2P.Reachable.normalizedEntry`
says where every stored peer comes from: it is a normalized peer set under its own, truthy,
identifier (`NormalizedEntry`), so any property of such entries holds of every reachable store.

`step_other` says once what an event other than one of the connection machine does: it keeps
the refs and runs at most one updater (`IsUpdater`), which sets `localPeerId` and replaces the
peer store, or appends one chat message (`IsUpdater.eq`). Hence `Reachable.messages_length`: the
chat log never holds more than 100 messages.

`chatLog` lists what a run appends, event by event (`chatAppend`): the message of a
`chat_message` frame on an open socket, and the local echo of `sendChat` when `wsRef`'s socket is
open. `chat_log_fifo`: after every run the state's log is the last 100 of them, in order.
-/

namespace Mycelial

/-- A REST request of `useP2P` in flight. -/
inductive P2PRequest
  | info
  | peers
  deriving DecidableEq, Repr

/-- Everything `useP2P` holds. -/
structure P2PHook where
  conn : Conn
  state : P2PState
  /-- The requests in flight, in the order they were made. -/
  requests : List P2PRequest
  /-- The frames sent, with the socket they were sent on. -/
  sent : List (Nat × JsVal)

/-- The hook at mount, before the mount effect runs. -/
def P2PHook.init : P2PHook :=
  ⟨Conn.init, P2PState.init, [], []⟩

/-- An event of `useP2P`. -/
inductive P2PEvent
  /-- A call or a browser event of the connection machine. -/
  | conn (e : ConnEvent)
  /-- Open socket `i` delivers a frame that `JSON.parse` accepted. -/
  | message (i : Nat) (frame : JsVal)
  /-- The `k`-th request in flight settles. -/
  | settle (k : Nat) (result : FetchResult)
  /-- `sendChat(content, to)`, with the readings of `Date.now()` its updater makes. -/
  | sendChat (content : String) (recipient : JsVal) (idTime stampTime : Nat)
  /-- `refreshPeers()`. -/
  | refreshPeers

namespace useP2P

/-- What the handlers of `useP2P` do besides the refs, for one action of the machine. -/
def react (h : P2PHook) : Action → P2PHook
  | .opened _ => { h with state := { h.state with connected := true },
                          requests := h.requests ++ [.info, .peers] }
  | .closed _ _ => { h with state := { h.state with connected := false } }
  | _ => h

/-- A request once it settles: the updater it passes to `setState`, if any. -/
def settled : P2PRequest → FetchResult → Option P2PUpdater
  | .info, result => fetchInfo result
  | .peers, result => fetchPeers result

/-- Run an updater; `none` when it throws. -/
def apply (h : P2PHook) (update : P2PUpdater) : Option P2PHook :=
  (update h.state).toOption.map fun s => { h with state := s }

/-- One event; `none` when an updater throws. -/
def step (cfg : Config) (h : P2PHook) : P2PEvent → Option P2PHook
  | .conn e =>
    let r := Conn.step cfg h.conn e
    some (r.2.foldl react { h with conn := r.1 })
  | .message i frame =>
    if h.conn.sockets[i]? = some .open then apply h (onmessage frame) else some h
  | .settle k result =>
    match h.requests[k]? with
    | some req =>
      let h := { h with requests := h.requests.eraseIdx k }
      match settled req result with
      | some update => apply h update
      | none => some h
    | none => some h
  | .sendChat content recipient idTime stampTime =>
    match h.conn.wsRef with
    | some i =>
      if h.conn.sockets[i]? = some .open then
        apply { h with sent := h.sent ++ [(i, .obj [("type", .str "send_chat"),
          ("content", .str content), ("to", recipient)])] }
          (sendChatUpdate content recipient idTime stampTime)
      else some h
    | none => some h
  | .refreshPeers => some { h with requests := h.requests ++ [.peers] }

/-- A run: the events one after another, `none` once an updater has thrown. -/
def run (cfg : Config) : P2PHook → List P2PEvent → Option P2PHook
  | h, [] => some h
  | h, e :: es => (step cfg h e).bind fun h => run cfg h es

/-- The states a run from mount reaches. -/
inductive Reachable (cfg : Config) : P2PHook → Prop
  | init : Reachable cfg P2PHook.init
  | step {h h' : P2PHook} (e : P2PEvent) :
      Reachable cfg h → step cfg h e = some h' → Reachable cfg h'

/-- What every step keeps, every run keeps. -/
theorem run_preserves {cfg : Config} {P : P2PHook → Prop}
    (hP : ∀ {h h' : P2PHook} {e : P2PEvent}, P h → step cfg h e = some h' → P h') :
    ∀ {h h' : P2PHook} {es : List P2PEvent}, P h → run cfg h es = some h' → P h'
  | _, _, [], hp, hs => by cases hs; exact hp
  | h, _, e :: es, hp, hs => by
    cases he : step cfg h e with
    | none => simp [run, he] at hs
    | some h₁ => exact run_preserves hP (hP hp he) (by simpa [run, he] using hs)

theorem Reachable.run {cfg : Config} {h h' : P2PHook} (hr : Reachable cfg h)
    {es : List P2PEvent} (hs : run cfg h es = some h') : Reachable cfg h' :=
  run_preserves (fun hr hs => Reachable.step _ hr hs) hr hs

/-! ## The connection part -/

theorem react_conn (h : P2PHook) (a : Action) : (react h a).conn = h.conn := by
  cases a <;> rfl

theorem foldl_react_conn (acts : List Action) (h : P2PHook) :
    (acts.foldl react h).conn = h.conn := by
  induction acts generalizing h with
  | nil => rfl
  | cons a acts ih => rw [List.foldl_cons, ih, react_conn]

theorem react_with_conn (h : P2PHook) (c : Conn) (a : Action) :
    react { h with conn := c } a = { react h a with conn := c } := by
  cases a <;> rfl

theorem foldl_react_with_conn (acts : List Action) (h : P2PHook) (c : Conn) :
    acts.foldl react { h with conn := c } = { acts.foldl react h with conn := c } := by
  induction acts generalizing h with
  | nil => rfl
  | cons a acts ih => rw [List.foldl_cons, react_with_conn, ih]; rfl

/-- **The connection part.** On events of the connection machine the hook never fails, its
refs are those of `Conn.run`, and its state is the reactions to that run's actions in order. -/
theorem run_conn (cfg : Config) (h : P2PHook) (es : List ConnEvent) :
    run cfg h (es.map .conn) =
      some ((Conn.run cfg h.conn es).2.foldl react
        { h with conn := (Conn.run cfg h.conn es).1 }) := by
  induction es generalizing h with
  | nil => rfl
  | cons e es ih =>
    simp only [List.map_cons, run, step, Option.some_bind, ih, foldl_react_conn, Conn.run_cons,
      List.foldl_append, foldl_react_with_conn]

/-! ## The other events -/

/-- The updaters `useP2P` passes to `setState`: that of a frame, of a settled request, or of
`sendChat`. -/
def IsUpdater (update : P2PUpdater) : Prop :=
  (∃ frame, update = onmessage frame) ∨ (∃ req result, settled req result = some update) ∨
    ∃ content recipient idTime stampTime, update = sendChatUpdate content recipient idTime stampTime

theorem apply_eq_some {h h' : P2PHook} {update : P2PUpdater} (ha : apply h update = some h') :
    ∃ s', update h.state = .ok s' ∧ h' = { h with state := s' } := by
  unfold apply at ha
  cases hu : update h.state <;> simp [hu, Except.toOption] at ha
  exact ⟨_, rfl, ha.symm⟩

/-- `h'` has the refs of `h`; its state, or what one of the hook's updaters makes of it; and its
frames, plus at most one on a socket that is open. -/
structure OtherStep (h h' : P2PHook) : Prop where
  conn : h'.conn = h.conn
  state : h'.state = h.state ∨ ∃ u, IsUpdater u ∧ u h.state = .ok h'.state
  sent : h'.sent = h.sent ∨ ∃ i f, h.conn.sockets[i]? = some .open ∧ h'.sent = h.sent ++ [(i, f)]

/-- **What the other events do.** An event other than one of the connection machine keeps the
refs, changes the state, if at all, by one of the hook's updaters, and sends at most one frame,
on an open socket. -/
theorem step_other {cfg : Config} {h h' : P2PHook} {e : P2PEvent} (he : ∀ ce, e ≠ .conn ce)
    (hst : step cfg h e = some h') : OtherStep h h' := by
  cases e with
  | conn ce => exact absurd rfl (he ce)
  | message i frame =>
    simp only [step] at hst
    split at hst
    · obtain ⟨s', hu, rfl⟩ := apply_eq_some hst
      exact ⟨rfl, .inr ⟨_, .inl ⟨frame, rfl⟩, hu⟩, .inl rfl⟩
    · cases hst; exact ⟨rfl, .inl rfl, .inl rfl⟩
  | settle k result =>
    simp only [step] at hst
    split at hst
    · split at hst
      · obtain ⟨s', hu, rfl⟩ := apply_eq_some hst
        exact ⟨rfl, .inr ⟨_, .inr (.inl ⟨_, _, ‹_›⟩), hu⟩, .inl rfl⟩
      · cases hst; exact ⟨rfl, .inl rfl, .inl rfl⟩
    · cases hst; exact ⟨rfl, .inl rfl, .inl rfl⟩
  | sendChat content recipient idTime stampTime =>
    simp only [step] at hst
    split at hst
    · split at hst
      · next hi =>
        obtain ⟨s', hu, rfl⟩ := apply_eq_some hst
        exact ⟨rfl, .inr ⟨_, .inr (.inr ⟨_, _, _, _, rfl⟩), hu⟩, .inr ⟨_, _, hi, rfl⟩⟩
      · cases hst; exact ⟨rfl, .inl rfl, .inl rfl⟩
    · cases hst; exact ⟨rfl, .inl rfl, .inl rfl⟩
  | refreshPeers => cases hst; exact ⟨rfl, .inl rfl, .inl rfl⟩

/-- A settled request's updater: that of `fetchInfo`, or `fetchPeersUpdate`. -/
theorem settled_updater {req : P2PRequest} {result : FetchResult} {update : P2PUpdater}
    (hu : settled req result = some update) :
    (∃ info : JsVal, update = fun s => do pure { s with localPeerId := ← info.get "peer_id" }) ∨
      ∃ peers, update = fetchPeersUpdate peers := by
  cases req with
  | info =>
    simp only [settled, fetchInfo] at hu
    split at hu <;> cases hu
    exact .inl ⟨_, rfl⟩
  | peers =>
    simp only [settled, fetchPeers] at hu
    split at hu
    · split at hu <;> cases hu
      exact .inr ⟨_, rfl⟩
    · cases hu

/-- A settled request's updater sets `localPeerId` and replaces the peer store. -/
theorem settled_state {req : P2PRequest} {result : FetchResult} {update : P2PUpdater}
    {s s' : P2PState} (hu : settled req result = some update) (h : update s = .ok s') :
    ∃ localPeerId peers, s' = { s with localPeerId, peers } := by
  rcases settled_updater hu with ⟨info, rfl⟩ | ⟨peers, rfl⟩
  · obtain ⟨v, -, ⟨⟩⟩ := except_bind_eq_ok.mp h
    exact ⟨v, s.peers, rfl⟩
  · obtain ⟨xs, -, h⟩ := except_bind_eq_ok.mp h
    obtain ⟨m, -, ⟨⟩⟩ := except_bind_eq_ok.mp h
    exact ⟨s.localPeerId, m, rfl⟩

/-- **What an updater does.** It sets `localPeerId` and replaces the peer store, or appends one
chat message: none writes `connected`. -/
theorem IsUpdater.eq {update : P2PUpdater} {s s' : P2PState} (hu : IsUpdater update)
    (h : update s = .ok s') :
    (∃ localPeerId peers, s' = { s with localPeerId, peers }) ∨
      ∃ m, s' = { s with messages := appendMessage s.messages m } := by
  rcases hu with ⟨frame, rfl⟩ | ⟨req, result, hr⟩ | ⟨_, _, _, _, rfl⟩
  · rcases onmessage_cases h with ⟨-, peers, rfl⟩ | ⟨m, -, rfl⟩
    · exact .inl ⟨s.localPeerId, peers, rfl⟩
    · exact .inr ⟨m, rfl⟩
  · exact .inl (settled_state hr h)
  · exact .inr (sendChatUpdate_appends h)

/-- The reactions to the machine's actions write only `connected` of the state. -/
theorem foldl_react_state (acts : List Action) (h : P2PHook) :
    ∃ connected, (acts.foldl react h).state = { h.state with connected } := by
  induction acts generalizing h with
  | nil => exact ⟨h.state.connected, rfl⟩
  | cons a acts ih =>
    obtain ⟨b, hb⟩ := ih (react h a)
    exact ⟨b, hb.trans (by cases a <;> rfl)⟩

/-! ## Where stored peers come from -/

/-- A normalized peer under its own truthy identifier: what every path stores. -/
def NormalizedEntry (e : JsVal × NormalizedPeer) : Prop :=
  ∃ peer, normalizePeer peer = .ok e.2 ∧ e.2.id.truthy ∧ e.1 = e.2.id

/-- What an update may do to the store: every entry of `new` is an entry of `old` or a
`NormalizedEntry`. -/
structure Grown (old new : JsMap NormalizedPeer) : Prop where
  entries : ∀ e ∈ new, e ∈ old ∨ NormalizedEntry e

theorem Grown.refl (m : JsMap NormalizedPeer) : Grown m m :=
  ⟨fun _ he => .inl he⟩

theorem Grown.trans {a b c : JsMap NormalizedPeer} (hab : Grown a b) (hbc : Grown b c) :
    Grown a c :=
  ⟨fun e he => (hbc.entries e he).elim (hab.entries e) .inr⟩

theorem grown_addPeers {m m' : JsMap NormalizedPeer} {peers : List JsVal}
    (h : addPeers m peers = .ok m') : Grown m m' :=
  ⟨addPeers_forall (fun e => e ∈ m ∨ NormalizedEntry e)
    (fun peer _ hn hid => .inr ⟨peer, hn, hid, rfl⟩) (fun _ he => .inl he) h⟩

theorem grown_set_normalized {m : JsMap NormalizedPeer} {n : NormalizedPeer} {peer : JsVal}
    (hn : normalizePeer peer = .ok n) (hid : n.id.truthy) : Grown m (m.set n.id n) :=
  ⟨fun _ he => (JsMap.mem_set he).imp_right fun h => by subst h; exact ⟨peer, hn, hid, rfl⟩⟩

theorem grown_delete (m : JsMap NormalizedPeer) (k : JsVal) : Grown m (m.delete k) :=
  ⟨fun _ he => .inl (JsMap.mem_delete.mp he).1⟩

theorem grown_empty (m m' : JsMap NormalizedPeer) (h : Grown .empty m') : Grown m m' :=
  ⟨fun e he => (h.entries e he).imp_left fun h => absurd h (JsMap.not_mem_empty e)⟩

variable {s s' : P2PState}

theorem peersListUpdate_grown {peers : JsVal} (h : peersListUpdate peers s = .ok s') :
    Grown s.peers s'.peers := by
  obtain ⟨xs, -, h⟩ := except_bind_eq_ok.mp h
  obtain ⟨m, hm, h⟩ := except_bind_eq_ok.mp h
  cases h
  exact grown_addPeers hm

theorem peerJoinedUpdate_grown {peerId peerInfo : JsVal} (hid : peerId.truthy)
    (h : peerJoinedUpdate peerId peerInfo s = .ok s') : Grown s.peers s'.peers := by
  obtain ⟨n, hn, h⟩ := except_bind_eq_ok.mp h
  cases h
  have hn_id : n.id = peerId := by
    simpa using normalizePeer_id_of_truthy hn (by simpa using hid)
  rw [← hn_id] at hid ⊢
  exact grown_set_normalized hn hid

theorem fetchPeersUpdate_grown {peers : JsVal} (h : fetchPeersUpdate peers s = .ok s') :
    Grown s.peers s'.peers := by
  obtain ⟨xs, -, h⟩ := except_bind_eq_ok.mp h
  obtain ⟨m, hm, h⟩ := except_bind_eq_ok.mp h
  cases h
  exact grown_empty _ _ (grown_addPeers hm)

theorem sendChatUpdate_peers {content : String} {recipient : JsVal} {t₁ t₂ : Nat}
    (h : sendChatUpdate content recipient t₁ t₂ s = .ok s') : s'.peers = s.peers := by
  obtain ⟨m, rfl⟩ := sendChatUpdate_appends h
  rfl

/-- Every updater `handleMessage` returns keeps the store's entries or adds normalized ones. -/
theorem handleMessage_grown {frame : JsVal} {update : P2PUpdater}
    (hu : handleMessage frame = .ok (some update)) (h : update s = .ok s') :
    Grown s.peers s'.peers := by
  rcases handleMessage_updater hu with ⟨-, ⟨_, rfl⟩ | ⟨_, _, hid, rfl⟩ | ⟨_, rfl⟩⟩ | ⟨_, -, rfl⟩
  · exact peersListUpdate_grown h
  · exact peerJoinedUpdate_grown hid h
  · cases h; exact grown_delete _ _
  · cases h; exact Grown.refl _

theorem onmessage_grown {frame : JsVal} (h : onmessage frame s = .ok s') :
    Grown s.peers s'.peers := by
  unfold onmessage at h
  split at h
  · exact handleMessage_grown ‹_› h
  · cases h; exact Grown.refl _

theorem settled_grown {req : P2PRequest} {result : FetchResult} {update : P2PUpdater}
    (hu : settled req result = some update) (h : update s = .ok s') : Grown s.peers s'.peers := by
  rcases settled_updater hu with ⟨info, rfl⟩ | ⟨peers, rfl⟩
  · obtain ⟨v, -, ⟨⟩⟩ := except_bind_eq_ok.mp h
    exact Grown.refl _
  · exact fetchPeersUpdate_grown h

theorem IsUpdater.grown {update : P2PUpdater} (hu : IsUpdater update) (h : update s = .ok s') :
    Grown s.peers s'.peers := by
  rcases hu with ⟨frame, rfl⟩ | ⟨req, result, hr⟩ | ⟨_, _, _, _, rfl⟩
  · exact onmessage_grown h
  · exact settled_grown hr h
  · rw [sendChatUpdate_peers h]
    exact Grown.refl _

/-- **The store step.** No event drops a peer other than through `delete`, and every peer an
event stores is a `NormalizedEntry`. -/
theorem step_grown {cfg : Config} {h h' : P2PHook} {e : P2PEvent} (hs : step cfg h e = some h') :
    Grown h.state.peers h'.state.peers := by
  by_cases he : ∃ ce, e = .conn ce
  · obtain ⟨ce, rfl⟩ := he
    cases hs
    obtain ⟨b, hb⟩ := foldl_react_state (Conn.step cfg h.conn ce).2 { h with conn := _ }
    rw [hb]
    exact Grown.refl _
  · obtain ⟨-, hst | ⟨u, hu, hs⟩, -⟩ := step_other (fun ce h => he ⟨ce, h⟩) hs
    · rw [hst]; exact Grown.refl _
    · exact hu.grown hs

/-- **Where stored peers come from.** In every reachable state, every entry of the peer store
is a normalized peer under its own truthy identifier. -/
theorem Reachable.normalizedEntry {cfg : Config} {h : P2PHook} (hr : Reachable cfg h) :
    ∀ e ∈ h.state.peers, NormalizedEntry e := by
  induction hr with
  | init => exact fun e he => absurd he (JsMap.not_mem_empty e)
  | step e _ hs ih => exact fun x hx => ((step_grown hs).entries x hx).elim (ih x) id

/-- **Stored peers are normalized.** In every reachable state, every stored peer is what
`normalizePeer` made of some record: its name is truthy; its reputation is the record's numeric
`reputation`, else that value's `score`, else `0.5` (`reputationOf`), so never `null` or
`undefined`; its addresses are the record's `addresses` when truthy, else `[]`, so truthy. -/
theorem peer_values_normalized {cfg : Config} {h : P2PHook} (hr : Reachable cfg h) :
    ∀ e ∈ h.state.peers, ∃ peer, normalizePeer peer = .ok e.2 ∧ e.2.name.truthy ∧
      e.2.reputation = reputationOf (peer.getOpt "reputation") ∧
      e.2.reputation.isNullish = false ∧
      e.2.addresses = (peer.getOpt "addresses").or (.arr []) ∧ e.2.addresses.truthy := by
  intro e he
  obtain ⟨peer, hn, -⟩ := hr.normalizedEntry e he
  obtain ⟨-, -, -, hrep, haddr⟩ := normalizePeer_ok hn
  exact ⟨peer, hn, normalizePeer_name_truthy hn, hrep, normalizePeer_reputation_not_nullish hn,
    haddr, normalizePeer_addresses_truthy hn⟩

/-- A listed peer whose reputation is `{score: 0.9}` and who has no addresses. -/
theorem peer_values_normalized_listed :
    ∃ h, Reachable {} h ∧ h.state.peers.keys = [.str "a"] ∧
      ∀ e ∈ h.state.peers, ∃ peer, normalizePeer peer = .ok e.2 ∧ e.2.name.truthy ∧
        e.2.reputation = reputationOf (peer.getOpt "reputation") ∧
        e.2.reputation.isNullish = false ∧
        e.2.addresses = (peer.getOpt "addresses").or (.arr []) ∧ e.2.addresses.truthy :=
  have hr := Reachable.init.run
    (show run {} P2PHook.init [.conn .connect, .conn (.opened 0),
      .message 0 (.obj [("type", .str "peers_list"), ("peers", .arr [.obj [("id", .str "a"),
        ("reputation", .obj [("score", .num (mkRat 9 10))])]])])] = some _ from rfl)
  ⟨_, hr, rfl, peer_values_normalized hr⟩

/-- A `peers_list` frame whose peer has a numeric name, a reputation of 7 and a string for its
addresses: they are stored as they came. -/
theorem peer_values_copied :
    (run {} P2PHook.init [.conn .connect, .conn (.opened 0),
      .message 0 (.obj [("type", .str "peers_list"), ("peers", .arr [.obj [("id", .str "a"),
        ("name", .num 42), ("reputation", .num 7), ("addresses", .str "x")]])])]).map
      (·.state.peers.entries.map fun e => (e.2.name, e.2.reputation, e.2.addresses)) =
      some [(.num 42, .num 7, .str "x")] := by
  decide

/-! ## `connected` -/

/-- Only `onopen` sets `connected`, and every `onclose` clears it. -/
theorem react_connected (h : P2PHook) (a : Action) (hc : (react h a).state.connected = true) :
    (∃ i, a = .opened i) ∨ h.state.connected = true ∧ ∀ i code, a ≠ .closed i code := by
  cases a with
  | opened i => exact .inl ⟨i, rfl⟩
  | closed i code => cases hc
  | _ => exact .inr ⟨hc, fun _ _ => nofun⟩

/-- No updater writes `connected`. -/
theorem IsUpdater.connected {update : P2PUpdater} (hu : IsUpdater update)
    (h : update s = .ok s') : s'.connected = s.connected := by
  rcases hu.eq h with ⟨_, _, rfl⟩ | ⟨_, rfl⟩ <;> rfl

/-! ## The chat log -/

/-- The message an event appends to the chat log, as the log's specification names them:
`message.data || message` of a `chat_message` frame on an open socket, and the local echo of
`sendChat` while `wsRef` holds an open socket. -/
def chatAppend (h : P2PHook) : P2PEvent → Option JsVal
  | .message i frame => if h.conn.sockets[i]? = some .open then chatOf frame else none
  | .sendChat content recipient idTime stampTime =>
    match h.conn.wsRef with
    | some i =>
      if h.conn.sockets[i]? = some .open then
        (localEcho content recipient idTime stampTime h.state).toOption
      else none
    | none => none
  | _ => none

/-- The messages a run appends to the chat log, in the order their updaters run. -/
def chatLog (cfg : Config) : P2PHook → List P2PEvent → List JsVal
  | _, [] => []
  | h, e :: es =>
    match step cfg h e with
    | some h' => (chatAppend h e).toList ++ chatLog cfg h' es
    | none => []

/-- **What a step appends.** Every event appends to the chat log the message `chatAppend` names,
after `slice(-99)`, and otherwise leaves the log as it was. -/
theorem step_chatAppend {cfg : Config} {h h' : P2PHook} {e : P2PEvent}
    (hst : step cfg h e = some h') :
    h'.state.messages =
      ((chatAppend h e).map (appendMessage h.state.messages)).getD h.state.messages := by
  cases e with
  | conn ce =>
    cases hst
    obtain ⟨b, hb⟩ := foldl_react_state (Conn.step cfg h.conn ce).2 { h with conn := _ }
    rw [hb]
    rfl
  | message i frame =>
    simp only [step, chatAppend] at hst ⊢
    split at hst
    · next hi =>
      obtain ⟨s', hu, rfl⟩ := apply_eq_some hst
      rw [if_pos hi]
      rcases onmessage_cases hu with ⟨hc, _, rfl⟩ | ⟨m, hc, rfl⟩ <;> rw [hc] <;> rfl
    · next hi => cases hst; rw [if_neg hi]; rfl
  | settle k result =>
    simp only [step] at hst
    split at hst
    · split at hst
      · obtain ⟨s', hu, rfl⟩ := apply_eq_some hst
        obtain ⟨_, _, rfl⟩ := settled_state ‹_› hu
        rfl
      · cases hst; rfl
    · cases hst; rfl
  | sendChat content recipient idTime stampTime =>
    simp only [step, chatAppend] at hst ⊢
    split at hst
    · next i hw =>
      split at hst
      · next hi =>
        obtain ⟨s', hu, rfl⟩ := apply_eq_some hst
        rw [sendChatUpdate_eq] at hu
        rw [if_pos hi]
        cases he : localEcho content recipient idTime stampTime h.state <;> rw [he] at hu <;> cases hu
        rfl
      · next hi => cases hst; rw [if_neg hi]; rfl
    · cases hst; rfl
  | refreshPeers => cases hst; rfl

/-- **What a step does to the chat log.** It keeps it, or appends one message. -/
theorem step_messages {cfg : Config} {h h' : P2PHook} {e : P2PEvent}
    (hst : step cfg h e = some h') :
    h'.state.messages = h.state.messages ∨
      ∃ m, h'.state.messages = appendMessage h.state.messages m := by
  rw [step_chatAppend hst]
  cases chatAppend h e with
  | none => exact .inl rfl
  | some m => exact .inr ⟨m, rfl⟩

/-- In every reachable state the chat log holds at most 100 messages. -/
theorem Reachable.messages_length {cfg : Config} {h : P2PHook} (hr : Reachable cfg h) :
    h.state.messages.length ≤ 100 := by
  induction hr with
  | init => exact Nat.zero_le _
  | step _ _ hst ih =>
    rcases step_messages hst with hm | ⟨m, hm⟩ <;> rw [hm]
    · exact ih
    · exact appendMessage_length_le _ m

/-- A step keeps the log the last 100 messages of what it held and what the step appends. -/
theorem step_window {cfg : Config} {h h' : P2PHook} {e : P2PEvent}
    (hst : step cfg h e = some h') (hl : h.state.messages.length ≤ 100) :
    h'.state.messages = (h.state.messages ++ (chatAppend h e).toList).drop
      ((h.state.messages ++ (chatAppend h e).toList).length - 100) := by
  rw [step_chatAppend hst]
  cases chatAppend h e with
  | none => simp [Nat.sub_eq_zero_of_le hl]
  | some m => exact appendMessage_eq _ _

/-- **The chat log over a run.** From a log of at most 100 messages, a run leaves the last 100
of those messages followed by the ones it appended. -/
theorem messages_window_run {cfg : Config} :
    ∀ {h h' : P2PHook} {es : List P2PEvent}, h.state.messages.length ≤ 100 →
      run cfg h es = some h' →
      h'.state.messages = (h.state.messages ++ chatLog cfg h es).drop
        ((h.state.messages ++ chatLog cfg h es).length - 100)
  | _, _, [], hl, hs => by cases hs; simp [chatLog, Nat.sub_eq_zero_of_le hl]
  | h, _, e :: es, hl, hs => by
    cases he : step cfg h e with
    | none => simp [run, he] at hs
    | some h₁ =>
      have hw := step_window he hl
      have hl₁ : h₁.state.messages.length ≤ 100 := by rw [hw, List.length_drop]; omega
      rw [messages_window_run hl₁ (by simpa [run, he] using hs), hw, drop_window,
        List.append_assoc]
      simp only [chatLog, he]

/-- **The chat log is a fixed-capacity FIFO.** After any run of `useP2P` from mount, the chat log
is the last 100 of the messages the run appended, in order: `[m_max(1, n-99), ..., m_n]` of
`m_1, ..., m_n`. It never holds more than 100, and drops the oldest first. -/
theorem chat_log_fifo (cfg : Config) (es : List P2PEvent) {h : P2PHook}
    (hr : run cfg P2PHook.init es = some h) :
    h.state.messages =
        (chatLog cfg P2PHook.init es).drop ((chatLog cfg P2PHook.init es).length - 100) ∧
      h.state.messages.length ≤ 100 := by
  have hw := messages_window_run
    (show P2PHook.init.state.messages.length ≤ 100 from Nat.zero_le 100) hr
  rw [show P2PHook.init.state.messages = [] from rfl, List.nil_append] at hw
  refine ⟨hw, ?_⟩
  rw [hw, List.length_drop]
  omega

/-- A `chat_message` frame, then `sendChat`: the log holds the frame's `data`, then the echo. -/
theorem chat_log_frame_then_echo :
    ∃ es h, es = [.conn .connect, .conn (.opened 0),
        .message 0 (.obj [("type", .str "chat_message"), ("data", .str "hello")]),
        .sendChat "hi" .undefined 1 2] ∧
      run {} P2PHook.init es = some h ∧
      (h.state.messages =
          (chatLog {} P2PHook.init es).drop ((chatLog {} P2PHook.init es).length - 100) ∧
        h.state.messages.length ≤ 100) :=
  have hr := show run {} P2PHook.init [.conn .connect, .conn (.opened 0),
      .message 0 (.obj [("type", .str "chat_message"), ("data", .str "hello")]),
      .sendChat "hi" .undefined 1 2] = some _ from rfl
  ⟨_, _, rfl, hr, chat_log_fifo {} _ hr⟩

end useP2P

end Mycelial
