import MycelialDashboard.P2P.Peer

/-!
# The data plane of `useP2P`

`P2PState` is the hook's `useState`. Everything that changes it goes through `setState` with an
updater, which React runs later, when it renders: a `P2PUpdater`. The handlers compute their
updaters here.

`handleMessage` reads a parsed frame and returns the updater of its tag (`peers_list`,
`peer_joined`, `peer_left`, `chat_message`), or none. It runs inside the `try` of `onmessage`,
so a throw there is caught; the updater runs outside it, so a throw there is not (`onmessage`).
`fetchPeers` and `fetchInfo` do the same for the two REST requests once they settle, and
`sendChatUpdate` is the local echo of `sendChat`. A frame replaces the peer store or appends one
chat message (`onmessage_cases`): the one `chatOf` reads off a `chat_message` frame. The local
echo appends the message `localEcho` builds (`sendChatUpdate_eq`). An append keeps the last 99
messages before the new one (`appendMessage_length_le`), so it is the last 100 of the longer log
(`appendMessage_eq`).

A `peers_list` frame merges the listed peers into the store, the last listed peer winning under
each key (`peersListUpdate_last_wins`); `peer_left` undoes `peer_joined`
(`peer_left_undoes_peer_joined`).
-/

namespace Mycelial

/-- `P2PState`. -/
structure P2PState where
  connected : Bool
  localPeerId : JsVal
  peers : JsMap NormalizedPeer
  messages : List JsVal
  deriving DecidableEq, Repr

/-- The state `useState` starts from. -/
def P2PState.init : P2PState :=
  ⟨false, .null, .empty, []⟩

/-- A function passed to `setState`. -/
abbrev P2PUpdater := P2PState → Except TypeError P2PState

namespace useP2P

/-- `[...messages.slice(-99), m]`. -/
def appendMessage (messages : List JsVal) (m : JsVal) : List JsVal :=
  messages.drop (messages.length - 99) ++ [m]

/-- The `peers_list` updater: the listed peers merged into a copy of the store. -/
def peersListUpdate (peers : JsVal) : P2PUpdater := fun s => do
  pure { s with peers := ← addPeers s.peers (← peers.iterate) }

/-- The `peer_joined` updater: `normalizePeer({ ...peerInfo, id: peerId })` set under `peerId`. -/
def peerJoinedUpdate (peerId peerInfo : JsVal) : P2PUpdater := fun s => do
  let normalized ← normalizePeer (.obj (("id", peerId) :: peerInfo.spread))
  pure { s with peers := s.peers.set peerId normalized }

/-- The `peer_left` updater. -/
def peerLeftUpdate (peerId : JsVal) : P2PUpdater := fun s =>
  .ok { s with peers := s.peers.delete peerId }

/-- The `chat_message` updater. -/
def chatMessageUpdate (m : JsVal) : P2PUpdater := fun s =>
  .ok { s with messages := appendMessage s.messages m }

/-- `handleMessage`: the updater it passes to `setState` for a parsed frame, `none` when it sets
no state, or the `TypeError` it throws first. -/
def handleMessage (message : JsVal) : Except TypeError (Option P2PUpdater) := do
  match ← message.get "type" with
  | .str "peers_list" =>
    let peers :=
      (← message.get "peers").or (((← message.get "data").getOpt "peers").or (.arr []))
    pure (some (peersListUpdate peers))
  | .str "peer_joined" =>
    let peerId := (← message.get "peer_id").or ((← message.get "data").getOpt "peer_id")
    let peerInfo :=
      (← message.get "peer_info").or (((← message.get "data").getOpt "peer_info").or message)
    pure (if peerId.truthy then some (peerJoinedUpdate peerId peerInfo) else none)
  | .str "peer_left" =>
    let peerId := (← message.get "peer_id").or ((← message.get "data").getOpt "peer_id")
    pure (if peerId.truthy then some (peerLeftUpdate peerId) else none)
  | .str "chat_message" => pure (some (chatMessageUpdate ((← message.get "data").or message)))
  | _ => pure none

/-- `ws.onmessage` on a frame `JSON.parse` accepted, then React running the updater: a throw in
`handleMessage` is caught and changes nothing, a throw in the updater escapes. -/
def onmessage (message : JsVal) (s : P2PState) : Except TypeError P2PState :=
  match handleMessage message with
  | .ok (some update) => update s
  | _ => .ok s

/-- What a frame appends to the chat log: `message.data || message` of a `chat_message` frame. -/
def chatOf : JsVal → Option JsVal
  | .obj fs =>
    if JsVal.field fs "type" = .str "chat_message" then
      some ((JsVal.field fs "data").or (.obj fs))
    else none
  | _ => none

/-- The `fetchPeers` updater: the store rebuilt from the response, in a new map. -/
def fetchPeersUpdate (peers : JsVal) : P2PUpdater := fun s => do
  pure { s with peers := ← addPeers .empty (← peers.iterate) }

/-- `fetchPeers` once its request settles: its updater, or `none` when its `try` caught a throw.
`peers.length` is only logged, but it throws on a `null` body. -/
def fetchPeers (result : FetchResult) : Option P2PUpdater :=
  match result with
  | .ok { json := .ok peers, .. } =>
    match peers.get "length" with
    | .ok _ => some (fetchPeersUpdate peers)
    | .error _ => none
  | _ => none

/-- `fetchInfo` once its request settles. The updater reads `info.peer_id` when React runs it. -/
def fetchInfo (result : FetchResult) : Option P2PUpdater :=
  match result with
  | .ok { json := .ok info, .. } =>
    some fun s => do pure { s with localPeerId := ← info.get "peer_id" }
  | _ => none

/-- The local echo of `sendChat(content, to)`, with the two readings of `Date.now()` the updater
makes. -/
def sendChatUpdate (content : String) (recipient : JsVal) (idTime stampTime : Nat) :
    P2PUpdater := fun s => do
  let localId := s.localPeerId.or (.str "unknown")
  let shortId ← localId.slice 8
  let chatMessage : JsVal := .obj
    [("id", .str s!"local-{idTime}"), ("from", localId),
     ("from_name", .str ("Peer-" ++ (← shortId.toStr) ++ " (you)")),
     ("to", recipient.or .undefined),
     ("content", .str content), ("timestamp", .num stampTime)]
  pure { s with messages := appendMessage s.messages chatMessage }

/-- The `chatMessage` the local echo of `sendChat` builds, or what the updater throws first. -/
def localEcho (content : String) (recipient : JsVal) (idTime stampTime : Nat) (s : P2PState) :
    Except TypeError JsVal := do
  let localId := s.localPeerId.or (.str "unknown")
  let shortId ← localId.slice 8
  pure (.obj [("id", .str s!"local-{idTime}"), ("from", localId),
    ("from_name", .str ("Peer-" ++ (← shortId.toStr) ++ " (you)")),
    ("to", recipient.or .undefined), ("content", .str content), ("timestamp", .num stampTime)])

/-! ## Small lemmas -/

/-- An append keeps the last 100 messages of the log with the new one. -/
theorem appendMessage_eq (messages : List JsVal) (m : JsVal) :
    appendMessage messages m =
      (messages ++ [m]).drop ((messages ++ [m]).length - 100) := by
  rw [appendMessage, List.drop_append_of_le_length (by simp), List.length_append,
    List.length_singleton]
  congr 2

/-- The last `k` of the last `k` of a log followed by more are the last `k` of the whole. -/
theorem drop_window (xs ys : List JsVal) (k : Nat) :
    (xs.drop (xs.length - k) ++ ys).drop ((xs.drop (xs.length - k) ++ ys).length - k) =
      (xs ++ ys).drop ((xs ++ ys).length - k) := by
  simp only [List.drop_append_eq_append_drop, List.drop_drop, List.length_append,
    List.length_drop]
  congr 2 <;> omega

/-- An append keeps at most the last 99 messages, then the new one. -/
theorem appendMessage_length_le (messages : List JsVal) (m : JsVal) :
    (appendMessage messages m).length ≤ 100 := by
  simp only [appendMessage, List.length_append, List.length_drop, List.length_singleton]
  omega

@[simp] theorem peerLeftUpdate_peers (peerId : JsVal) (s : P2PState) :
    peerLeftUpdate peerId s = .ok { s with peers := s.peers.delete peerId } := rfl

theorem handleMessage_obj_type (fs : List (String × JsVal)) :
    handleMessage (.obj fs) = (match JsVal.field fs "type" with
      | .str "peers_list" =>
        .ok (some (peersListUpdate ((JsVal.field fs "peers").or
          (((JsVal.field fs "data").getOpt "peers").or (.arr [])))))
      | .str "peer_joined" =>
        let peerId := (JsVal.field fs "peer_id").or ((JsVal.field fs "data").getOpt "peer_id")
        .ok (if peerId.truthy then some (peerJoinedUpdate peerId ((JsVal.field fs "peer_info").or
          (((JsVal.field fs "data").getOpt "peer_info").or (.obj fs)))) else none)
      | .str "peer_left" =>
        let peerId := (JsVal.field fs "peer_id").or ((JsVal.field fs "data").getOpt "peer_id")
        .ok (if peerId.truthy then some (peerLeftUpdate peerId) else none)
      | .str "chat_message" => .ok (some (chatMessageUpdate ((JsVal.field fs "data").or (.obj fs))))
      | _ => .ok none) := by
  simp only [handleMessage, JsVal.get_obj, except_ok_bind]
  split <;> rfl

/-- A frame whose `type` is none of the four tags changes nothing, whatever else it holds. -/
theorem onmessage_of_unknown_type {frame : JsVal}
    (h : ∀ tag ∈ ["peers_list", "peer_joined", "peer_left", "chat_message"],
      frame.getOpt "type" ≠ .str tag) (s : P2PState) : onmessage frame s = .ok s := by
  unfold onmessage
  split
  · next u hu =>
    obtain ⟨t, ht, hu⟩ := except_bind_eq_ok.mp hu
    rw [JsVal.getOpt_of_get ht] at h
    split at hu <;> first | exact absurd rfl (h _ (by simp)) | cases hu
  · rfl

/-- Every updater `handleMessage` returns is one of the four: one of the three that write the
peer store, for a frame that appends nothing to the chat log, or the `chat_message` updater of
what the frame appends. -/
theorem handleMessage_updater {frame : JsVal} {u : P2PUpdater}
    (hu : handleMessage frame = .ok (some u)) :
    chatOf frame = none ∧ ((∃ peers, u = peersListUpdate peers) ∨
      (∃ peerId peerInfo, peerId.truthy ∧ u = peerJoinedUpdate peerId peerInfo) ∨
      ∃ peerId, u = peerLeftUpdate peerId) ∨
    ∃ m, chatOf frame = some m ∧ u = chatMessageUpdate m := by
  cases frame with
  | obj fs =>
    rw [handleMessage_obj_type] at hu
    split at hu
    · next ht => cases hu; exact .inl ⟨by simp [chatOf, ht], .inl ⟨_, rfl⟩⟩
    · next ht =>
      dsimp only at hu
      split at hu
      · cases hu; exact .inl ⟨by simp [chatOf, ht], .inr (.inl ⟨_, _, ‹_›, rfl⟩)⟩
      · cases hu
    · next ht =>
      dsimp only at hu
      split at hu
      · cases hu; exact .inl ⟨by simp [chatOf, ht], .inr (.inr ⟨_, rfl⟩)⟩
      · cases hu
    · next ht => cases hu; exact .inr ⟨_, by simp [chatOf, ht], rfl⟩
    · cases hu
  | _ =>
    obtain ⟨t, ht, hu⟩ := except_bind_eq_ok.mp hu
    cases JsVal.getOpt_of_get ht
    cases hu

/-- A frame that appends to the chat log gets the `chat_message` updater. -/
theorem handleMessage_of_chatOf {frame m : JsVal} (h : chatOf frame = some m) :
    handleMessage frame = .ok (some (chatMessageUpdate m)) := by
  cases frame with
  | obj fs =>
    simp only [chatOf] at h
    split at h
    · next ht => cases h; rw [handleMessage_obj_type, ht]; rfl
    · cases h
  | _ => cases h

/-- **What a frame does.** It replaces the peer store, or appends to the chat log the message
`chatOf` reads off it. -/
theorem onmessage_cases {frame : JsVal} {s s' : P2PState} (h : onmessage frame s = .ok s') :
    (chatOf frame = none ∧ ∃ peers, s' = { s with peers }) ∨
      ∃ m, chatOf frame = some m ∧ s' = { s with messages := appendMessage s.messages m } := by
  unfold onmessage at h
  split at h
  · next u hu =>
    rcases handleMessage_updater hu with
      ⟨hc, ⟨_, rfl⟩ | ⟨_, _, -, rfl⟩ | ⟨_, rfl⟩⟩ | ⟨m, hc, rfl⟩
    · obtain ⟨_, -, h⟩ := except_bind_eq_ok.mp h
      obtain ⟨_, -, ⟨⟩⟩ := except_bind_eq_ok.mp h
      exact .inl ⟨hc, _, rfl⟩
    · obtain ⟨_, -, ⟨⟩⟩ := except_bind_eq_ok.mp h
      exact .inl ⟨hc, _, rfl⟩
    · cases h; exact .inl ⟨hc, _, rfl⟩
    · cases h; exact .inr ⟨m, hc, rfl⟩
  · next hu =>
    cases h
    cases hc : chatOf frame with
    | none => exact .inl ⟨rfl, s.peers, rfl⟩
    | some m => exact absurd (handleMessage_of_chatOf hc) (hu _)

/-- The REST snapshot of the peers does not read the store it replaces. -/
theorem fetchPeersUpdate_peers (peers : JsVal) (s s' : P2PState) :
    (fetchPeersUpdate peers s).map (·.peers) =
      (fetchPeersUpdate peers s').map (·.peers) := by
  unfold fetchPeersUpdate
  cases peers.iterate with
  | error => rfl
  | ok xs =>
    simp only [except_ok_bind]
    cases addPeers .empty xs <;> rfl

/-- The local echo appends the message `localEcho` builds. -/
theorem sendChatUpdate_eq (content : String) (recipient : JsVal) (idTime stampTime : Nat)
    (s : P2PState) : sendChatUpdate content recipient idTime stampTime s =
      (localEcho content recipient idTime stampTime s).map
        fun m => { s with messages := appendMessage s.messages m } := by
  simp only [sendChatUpdate, localEcho]
  cases (s.localPeerId.or (.str "unknown")).slice 8 with
  | error => rfl
  | ok v =>
    simp only [except_ok_bind]
    cases v.toStr <;> rfl

/-- The local echo appends one chat message. -/
theorem sendChatUpdate_appends {content : String} {recipient : JsVal} {t₁ t₂ : Nat}
    {s s' : P2PState} (h : sendChatUpdate content recipient t₁ t₂ s = .ok s') :
    ∃ m, s' = { s with messages := appendMessage s.messages m } := by
  obtain ⟨_, -, h⟩ := except_bind_eq_ok.mp h
  obtain ⟨_, -, ⟨⟩⟩ := except_bind_eq_ok.mp h
  exact ⟨_, rfl⟩

/-- The same `peer_joined` payload flat and under `data`: nested and with no `peer_info`, the
peer is read off the outer frame, which has no name. -/
theorem peer_joined_shapes_differ :
    (onmessage (.obj [("type", .str "peer_joined"), ("peer_id", .str "abc"),
      ("name", .str "Alice")]) P2PState.init).map (·.peers.entries.map (·.2.name)) =
      .ok [.str "Alice"] ∧
    (onmessage (.obj [("type", .str "peer_joined"), ("data", .obj [("peer_id", .str "abc"),
      ("name", .str "Alice")])]) P2PState.init).map (·.peers.entries.map (·.2.name)) =
      .ok [.str "Peer-abc"] :=
  ⟨rfl, rfl⟩

/-! ## Peer lists -/

/-- **The last listed peer wins.** A `peers_list` updater that returns has normalized every
listed peer; under each key the store then holds the last of them with a truthy identifier of
that key, else what it held before. -/
theorem peersListUpdate_last_wins {peers : JsVal} {s s' : P2PState}
    (h : peersListUpdate peers s = .ok s') :
    ∃ xs ns, peers.iterate = .ok xs ∧ xs.mapM normalizePeer = .ok ns ∧ ∀ k, s'.peers.get? k =
      ((ns.filter (·.id.truthy)).reverse.find? (·.id.sameKey k)).or (s.peers.get? k) := by
  obtain ⟨xs, hxs, h⟩ := except_bind_eq_ok.mp h
  obtain ⟨m, hm, h⟩ := except_bind_eq_ok.mp h
  cases h
  obtain ⟨ns, hns, hget⟩ := addPeers_get? hm
  exact ⟨xs, ns, hxs, hns, hget⟩

/-- A list naming peer `a` twice, then a peer with an empty `id`: the second `a` is stored, the
last peer is not. -/
theorem peers_list_duplicate_id :
    ∃ peers s', peers = JsVal.arr [.obj [("id", .str "a"), ("name", .str "x")],
        .obj [("id", .str "a"), ("name", .str "y")], .obj [("id", .str "")]] ∧
      peersListUpdate peers P2PState.init = .ok s' ∧ s'.peers.entries.map (·.2.name) = [.str "y"] ∧
      ∃ xs ns, peers.iterate = .ok xs ∧ xs.mapM normalizePeer = .ok ns ∧ ∀ k, s'.peers.get? k =
        ((ns.filter (·.id.truthy)).reverse.find? (·.id.sameKey k)).or
          (P2PState.init.peers.get? k) :=
  ⟨_, _, rfl, rfl, rfl, peersListUpdate_last_wins rfl⟩

/-- A `peers_list` frame listing one record with neither `id` nor `peer_id` leaves the state as
it was: `addPeers` skips a peer whose identifier is not truthy. -/
theorem onmessage_peers_list_no_id {fs : List (String × JsVal)}
    (hid : JsVal.field fs "id" = .undefined) (hpid : JsVal.field fs "peer_id" = .undefined)
    (s : P2PState) :
    onmessage (.obj [("type", .str "peers_list"), ("peers", .arr [.obj fs])]) s = .ok s := by
  have h : onmessage (.obj [("type", .str "peers_list"), ("peers", .arr [.obj fs])]) s =
      (addPeers s.peers [.obj fs]).map fun peers => { s with peers } := rfl
  rw [h, addPeers_of_no_id hid hpid]
  rfl

/-! ## Joining and leaving -/

/-- **`peer_left` undoes `peer_joined`.** From a store without the key, a `peer_joined` frame
whose `peer_id` is a non-empty string, followed by a `peer_left` frame with that `peer_id`, gives
the state back, whatever else the first frame carries. -/
theorem peer_left_undoes_peer_joined {s : P2PState} {fs : List (String × JsVal)} {k : String}
    (htype : JsVal.field fs "type" = .str "peer_joined") (hpid : JsVal.field fs "peer_id" = .str k)
    (hk : k ≠ "") (habs : s.peers.has (.str k) = false) :
    (onmessage (.obj fs) s >>= onmessage (.obj [("type", .str "peer_left"), ("peer_id", .str k)])) =
      .ok s := by
  have ht : (JsVal.str k).truthy := by simpa [JsVal.truthy] using hk
  simp only [onmessage, handleMessage_obj_type, htype, hpid, JsVal.or_of_truthy ht, if_pos ht]
  generalize ((JsVal.field fs "peer_info").or
    (((JsVal.field fs "data").getOpt "peer_info").or (JsVal.obj fs))) = info
  obtain ⟨n, hn, -⟩ :=
    normalizePeer_ok_of_str (JsVal.field_cons_self "id" (.str k) info.spread) hk
  have h1 : JsVal.field [("type", .str "peer_left"), ("peer_id", .str k)] "type" =
    .str "peer_left" := rfl
  have h2 : JsVal.field [("type", .str "peer_left"), ("peer_id", .str k)] "peer_id" = .str k := rfl
  simp only [peerJoinedUpdate, hn, except_ok_bind, except_pure, onmessage, handleMessage_obj_type,
    h1, h2, JsVal.or_of_truthy ht, if_pos ht, peerLeftUpdate_peers,
    JsMap.delete_set_of_not_has habs (show (JsVal.str k).sameKey (.str k) = true by simp)]

/-- The join of a peer named `Alice`, then its leave. -/
theorem peer_left_undoes_peer_joined_alice :
    JsVal.field [("type", .str "peer_joined"), ("peer_id", .str "abc"), ("name", .str "Alice")]
        "type" = .str "peer_joined" ∧
      JsVal.field [("type", .str "peer_joined"), ("peer_id", .str "abc"), ("name", .str "Alice")]
        "peer_id" = .str "abc" ∧ "abc" ≠ "" ∧ P2PState.init.peers.has (.str "abc") = false ∧
      (onmessage (.obj [("type", .str "peer_joined"), ("peer_id", .str "abc"),
          ("name", .str "Alice")]) P2PState.init >>=
        onmessage (.obj [("type", .str "peer_left"), ("peer_id", .str "abc")])) =
        .ok P2PState.init :=
  ⟨rfl, rfl, by decide, rfl, peer_left_undoes_peer_joined rfl rfl (by decide) rfl⟩

/-- A snapshot peer identified by `id` alone: `peer_left` reads only `peer_id`, flat or under
`data`, and the peer stays. -/
theorem peer_left_misses_id_only_peer :
    (onmessage (.obj [("type", .str "peers_list"), ("peers", .arr [.obj [("id", .str "X")]])])
        P2PState.init >>= onmessage (.obj [("type", .str "peer_left"), ("id", .str "X")])).map
      (·.peers.keys) = .ok [.str "X"] ∧
    (onmessage (.obj [("type", .str "peers_list"), ("peers", .arr [.obj [("id", .str "X")]])])
        P2PState.init >>=
        onmessage (.obj [("type", .str "peer_left"), ("data", .obj [("id", .str "X")])])).map
      (·.peers.keys) = .ok [.str "X"] :=
  ⟨rfl, rfl⟩

end useP2P

end Mycelial
