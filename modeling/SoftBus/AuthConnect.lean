import SoftBus.Lib.Run
import SoftBus.Lib.UseCount

/-!
# Connecting over WiFi

`ConnectAuthDevice` for WiFi, and the handlers of `auth_connection.c` on the auth looper. Commands and results are
handled in the order in which they are posted; a timeout comes at any later time, but not before the command of its
request. The system may give a descriptor again as soon as it is closed. Request ids are not used twice.
-/

namespace SoftBus

inductive ConnMsg where
  | cmd (requestId : Nat)
  | result (fd : Nat)
deriving DecidableEq, Repr

def ConnMsg.cmd? : ConnMsg → Option Nat
  | cmd requestId => some requestId
  | result _ => none

inductive ConnectResult where
  | ok (fd : Nat)
  | fail
  | timeout
deriving DecidableEq, Repr

structure ConnRequest where
  requestId : Nat
  fd : Nat
deriving DecidableEq, Repr

/-- `sockets` are those that wait for the end of `connect`, each with the request it was opened for. `accepted`,
`connected` (the sockets of which `OnWiFiConnected` was called) and `results` are the history. -/
structure AuthConn where
  messages : List ConnMsg := []
  timeouts : List Nat := []
  connRequestList : List ConnRequest := []
  sockets : List ConnRequest := []
  nextRequestId : Nat := 0
  accepted : List Nat := []
  connected : List ConnRequest := []
  results : List (Nat × ConnectResult) := []
deriving DecidableEq, Repr

namespace AuthConn

variable (s : AuthConn)

/-- The flags tell whether there is memory for the two messages. -/
def connectAuthDevice (timeoutPosted cmdPosted : Bool) : AuthConn :=
  let s' := { s with nextRequestId := s.nextRequestId + 1 }
  if cmdPosted then
    { s' with
      timeouts := if timeoutPosted then s.timeouts ++ [s.nextRequestId] else s.timeouts
      messages := s.messages ++ [.cmd s.nextRequestId]
      accepted := s.accepted ++ [s.nextRequestId] }
  else s'

def notifyClientConnected (requestId : Nat) (result : ConnectResult) : AuthConn :=
  { s with results := s.results ++ [(requestId, result)] }

def removeConnConnectTimeout (requestId : Nat) : AuthConn :=
  { s with timeouts := s.timeouts.filter (· ≠ requestId) }

def findConnRequestByFd (fd : Nat) : Option ConnRequest := s.connRequestList.find? (·.fd = fd)

def findConnRequestByRequestId (requestId : Nat) : Option ConnRequest :=
  s.connRequestList.find? (·.requestId = requestId)

/-- `fd` is what `SocketConnectDevice` returns; `mem` tells whether `AddConnRequest` gets memory. -/
def handleConnConnectCmd (requestId : Nat) (fd : Option Nat) (mem : Bool) : AuthConn :=
  match fd with
  | none => (s.removeConnConnectTimeout requestId).notifyClientConnected requestId .fail
  | some fd =>
    { s with
      sockets := s.sockets ++ [⟨requestId, fd⟩]
      connRequestList := if mem then s.connRequestList ++ [⟨requestId, fd⟩] else s.connRequestList }

def handleConnConnectResult (fd : Nat) : AuthConn :=
  match s.findConnRequestByFd fd with
  | none => s
  | some item =>
    let s' := (s.removeConnConnectTimeout item.requestId).notifyClientConnected item.requestId (.ok fd)
    { s' with connRequestList := s.connRequestList.eraseP (·.fd = fd) }

def handleConnConnectTimeout (requestId : Nat) : AuthConn :=
  let s' := match s.findConnRequestByRequestId requestId with
    | none => s
    | some item =>
      { s with
        sockets := s.sockets.filter (·.fd ≠ item.fd)
        connRequestList := s.connRequestList.eraseP (·.requestId = requestId) }
  s'.notifyClientConnected requestId .timeout

/-- `ProcessSocketOutEvent`: the socket is made ready for reading, or closed. `posted` tells whether there is
memory for the result. -/
def processSocketOutEvent (socket : ConnRequest) (ready posted : Bool) : AuthConn :=
  if ready then
    { s with
      connected := s.connected ++ [socket]
      messages := if posted then s.messages ++ [.result socket.fd] else s.messages }
  else s

end AuthConn

inductive AuthConnEvent where
  | connect (timeoutPosted cmdPosted : Bool)
  | handle (fd : Option Nat) (mem : Bool)
  | timeout (i : Nat)
  | writable (i : Nat) (ready posted : Bool)
deriving DecidableEq, Repr

namespace AuthConn

variable (s : AuthConn)

def step : AuthConnEvent → AuthConn
  | .connect timeoutPosted cmdPosted => s.connectAuthDevice timeoutPosted cmdPosted
  | .handle fd mem =>
    match s.messages with
    | [] => s
    | .cmd requestId :: messages => { s with messages }.handleConnConnectCmd requestId fd mem
    | .result fd :: messages => { s with messages }.handleConnConnectResult fd
  | .timeout i =>
    match s.timeouts[i]? with
    | none => s
    | some requestId =>
      if ConnMsg.cmd requestId ∈ s.messages then s
      else { s with timeouts := s.timeouts.eraseIdx i }.handleConnConnectTimeout requestId
  | .writable i ready posted =>
    match s.sockets[i]? with
    | none => s
    | some socket => { s with sockets := s.sockets.eraseIdx i }.processSocketOutEvent socket ready posted

/-- Every accepted request has one result or waits for its timeout, no other has a result, and success is reported
with a socket that was opened for the request and is connected. -/
structure Sound : Prop where
  nodup : s.accepted.Nodup
  once : s.accepted.Perm (s.timeouts ++ s.results.map (·.1))
  own : ∀ requestId fd, (requestId, .ok fd) ∈ s.results → ⟨requestId, fd⟩ ∈ s.connected

/-- A request is accepted without a timeout, or a result is handled that meets a request whose own socket is not
connected. -/
def Breaks : AuthConnEvent → Prop
  | .connect timeoutPosted cmdPosted => timeoutPosted = false ∧ cmdPosted = true
  | .handle _ _ => ∃ fd messages item, s.messages = .result fd :: messages ∧ s.findConnRequestByFd fd = some item ∧
      item ∉ s.connected
  | _ => False

/-! ## The timeout as the token of a request -/

def listed : List Nat := s.connRequestList.map (·.requestId)

/-- The requests with a command that was not handled, and those of the list. -/
def waiting : List Nat := s.messages.filterMap ConnMsg.cmd? ++ s.listed

structure Live : Prop extends Sound s where
  known : ∀ r ∈ s.accepted, r < s.nextRequestId
  waiting_nodup : s.waiting.Nodup
  waiting_sub : ∀ r ∈ s.waiting, r ∈ s.timeouts

section
variable {s} {s' : AuthConn} {r : Nat} {result : ConnectResult}

theorem Live.timeouts_nodup (h : s.Live) : s.timeouts.Nodup :=
  (List.nodup_append.mp (h.once.nodup_iff.mp h.nodup)).1

theorem Live.answer (h : s.Live) (haccepted : s'.accepted = s.accepted) (hnext : s'.nextRequestId = s.nextRequestId)
    (hconnected : s'.connected = s.connected) (hresults : s'.results = s.results ++ [(r, result)])
    (htimeouts : s.timeouts.Perm (r :: s'.timeouts)) (hown : ∀ fd, result = .ok fd → ⟨r, fd⟩ ∈ s.connected)
    (hnodup : s'.waiting.Nodup) (hwaiting : ∀ x ∈ s'.waiting, x ∈ s.waiting ∧ x ≠ r) : s'.Live where
  nodup := haccepted ▸ h.nodup
  once := by
    rw [haccepted, hresults, List.map_append, List.map_singleton]
    refine h.once.trans ((htimeouts.append_right _).trans ?_)
    rw [List.cons_append, ← List.append_assoc]
    exact List.perm_append_singleton .. |>.symm
  own := by
    intro requestId fd hmem
    rw [hconnected]
    rw [hresults] at hmem
    rcases List.mem_append.mp hmem with hmem | hmem
    · exact h.own requestId fd hmem
    · obtain ⟨rfl, rfl⟩ := Prod.mk.inj (List.mem_singleton.mp hmem)
      exact hown fd rfl
  known := by rw [haccepted, hnext]; exact h.known
  waiting_nodup := hnodup
  waiting_sub := by
    intro x hx
    obtain ⟨hold, hne⟩ := hwaiting x hx
    exact (List.mem_cons.mp (htimeouts.mem_iff.mp (h.waiting_sub x hold))).resolve_left hne

theorem Live.keep (h : s.Live) (haccepted : s'.accepted = s.accepted) (hnext : s'.nextRequestId = s.nextRequestId)
    (hconnected : ∀ x ∈ s.connected, x ∈ s'.connected) (hresults : s'.results = s.results)
    (htimeouts : s'.timeouts = s.timeouts) (hnodup : s'.waiting.Nodup) (hwaiting : ∀ x ∈ s'.waiting, x ∈ s.waiting) :
    s'.Live where
  nodup := haccepted ▸ h.nodup
  once := by rw [haccepted, htimeouts, hresults]; exact h.once
  own := fun requestId fd hmem => hconnected _ (h.own requestId fd (hresults ▸ hmem))
  known := by rw [haccepted, hnext]; exact h.known
  waiting_nodup := hnodup
  waiting_sub := fun x hx => htimeouts ▸ h.waiting_sub x (hwaiting x hx)

theorem Live.removeTimeout (h : s.Live) (hmem : r ∈ s.timeouts) : s.timeouts.Perm (r :: s.timeouts.filter (· ≠ r)) :=
  UseCount.perm_filter_ne (by simpa using h.timeouts_nodup) hmem

theorem Live.connect (h : s.Live) (timeoutPosted cmdPosted : Bool) (hbreaks : ¬ s.Breaks (.connect timeoutPosted cmdPosted)) :
    (s.connectAuthDevice timeoutPosted cmdPosted).Live := by
  unfold connectAuthDevice
  cases cmdPosted with
  | false => exact ⟨⟨h.nodup, h.once, h.own⟩, fun r hr => Nat.lt_succ_of_lt (h.known r hr), h.waiting_nodup, h.waiting_sub⟩
  | true =>
    cases timeoutPosted with
    | false => exact absurd ⟨rfl, rfl⟩ hbreaks
    | true =>
      have hnew : s.nextRequestId ∉ s.accepted := fun hmem => Nat.lt_irrefl _ (h.known _ hmem)
      have hfresh : s.nextRequestId ∉ s.waiting := fun hmem =>
        hnew (h.once.mem_iff.mpr (List.mem_append_left _ (h.waiting_sub _ hmem)))
      have hwaiting : ((s.messages ++ [ConnMsg.cmd s.nextRequestId]).filterMap ConnMsg.cmd? ++ s.listed).Perm
          (s.nextRequestId :: s.waiting) := by
        rw [List.filterMap_append, List.append_assoc]
        exact List.perm_middle
      refine ⟨⟨?_, ?_, h.own⟩, ?_, hwaiting.nodup_iff.mpr (List.nodup_cons.mpr ⟨hfresh, h.waiting_nodup⟩), ?_⟩
      · exact (List.perm_append_singleton ..).nodup_iff.mpr (List.nodup_cons.mpr ⟨hnew, h.nodup⟩)
      · change (s.accepted ++ [s.nextRequestId]).Perm (s.timeouts ++ [s.nextRequestId] ++ s.results.map (·.1))
        refine (h.once.append_right _).trans ?_
        rw [List.append_assoc, List.append_assoc]
        exact List.perm_append_comm.append_left _
      · intro r hr
        rcases List.mem_append.mp hr with hr | hr
        · exact Nat.lt_succ_of_lt (h.known r hr)
        · exact List.mem_singleton.mp hr ▸ Nat.lt_succ_self _
      · intro r hr
        change r ∈ s.timeouts ++ [s.nextRequestId]
        rcases List.mem_cons.mp (hwaiting.mem_iff.mp hr) with rfl | hr
        · exact List.mem_append_right _ (.head _)
        · exact List.mem_append_left _ (h.waiting_sub r hr)

theorem Live.handle_cmd (h : s.Live) {messages : List ConnMsg} (hmessages : s.messages = .cmd r :: messages)
    (fd : Option Nat) (mem : Bool) : ({ s with messages }.handleConnConnectCmd r fd mem).Live := by
  have hwaiting : s.waiting = r :: (messages.filterMap ConnMsg.cmd? ++ s.listed) := by
    rw [waiting, hmessages]
    rfl
  have hnodup := hwaiting ▸ h.waiting_nodup
  cases fd with
  | none =>
    refine h.answer rfl rfl rfl rfl (h.removeTimeout (h.waiting_sub r (hwaiting ▸ .head _))) (fun _ hok => nomatch hok)
      (List.nodup_cons.mp hnodup).2 fun x hx => ⟨hwaiting ▸ .tail _ hx, ?_⟩
    rintro rfl
    exact (List.nodup_cons.mp hnodup).1 hx
  | some fd =>
    have hsub : (messages.filterMap ConnMsg.cmd? ++
        (if mem then s.connRequestList ++ [⟨r, fd⟩] else s.connRequestList).map (·.requestId)).Subperm s.waiting := by
      rw [hwaiting]
      split
      · rw [List.map_append, List.map_singleton, ← List.append_assoc]
        exact (List.perm_append_singleton ..).subperm
      · exact (List.sublist_cons_self ..).subperm
    obtain ⟨l, hperm, hl⟩ := hsub
    exact h.keep rfl rfl (fun _ => id) rfl rfl (hperm.nodup_iff.mp (hl.nodup h.waiting_nodup))
      fun x hx => hl.subset (hperm.mem_iff.mpr hx)

theorem Live.handle_result (h : s.Live) {messages : List ConnMsg} {fd : Nat} (hmessages : s.messages = .result fd :: messages)
    (hown : ∀ item, s.findConnRequestByFd fd = some item → item ∈ s.connected) :
    ({ s with messages }.handleConnConnectResult fd).Live := by
  have hwaiting : s.waiting = messages.filterMap ConnMsg.cmd? ++ s.listed := by
    rw [waiting, hmessages]
    rfl
  unfold handleConnConnectResult
  cases hfind : ({ s with messages } : AuthConn).findConnRequestByFd fd with
  | none =>
    have hnodup : (messages.filterMap ConnMsg.cmd? ++ s.listed).Nodup := hwaiting ▸ h.waiting_nodup
    exact h.keep rfl rfl (fun _ => id) rfl rfl hnodup fun x hx => hwaiting ▸ hx
  | some item =>
    have hperm : (s.waiting).Perm
        (item.requestId :: (messages.filterMap ConnMsg.cmd? ++ (s.connRequestList.eraseP (·.fd = fd)).map (·.requestId))) := by
      rw [hwaiting]
      exact (((FirstMatch.eraseP_perm hfind).map (·.requestId)).append_left _).trans List.perm_middle
    have hnodup := List.nodup_cons.mp (hperm.nodup_iff.mp h.waiting_nodup)
    have hfd : item.fd = fd := by simpa using List.find?_some hfind
    refine h.answer rfl rfl rfl rfl (h.removeTimeout (h.waiting_sub _ (hperm.mem_iff.mpr (.head _)))) ?_ hnodup.2 ?_
    · rintro _ ⟨⟩
      exact hfd ▸ hown item hfind
    · refine fun x hx => ⟨hperm.mem_iff.mpr (.tail _ hx), ?_⟩
      rintro rfl
      exact hnodup.1 hx

theorem Live.timeout (h : s.Live) (i : Nat) : (s.step (.timeout i)).Live := by
  unfold step
  dsimp only
  cases hget : s.timeouts[i]? with
  | none => exact h
  | some r =>
    dsimp only
    split
    · exact h
    · rename_i hcmd
      obtain ⟨hi, rfl⟩ := List.getElem?_eq_some_iff.mp hget
      have htimeouts := (List.getElem_cons_eraseIdx_perm hi).symm
      have hmessages : s.timeouts[i] ∉ s.messages.filterMap ConnMsg.cmd? := by
        intro hmem
        obtain ⟨msg, hmsg, hr⟩ := List.mem_filterMap.mp hmem
        cases msg with
        | cmd requestId => exact hcmd (Option.some.inj hr ▸ hmsg)
        | result fd => cases hr
      -- the request is taken out of the list, if it is there
      have hlisted : ∀ list : List ConnRequest, (list.map (·.requestId)).Sublist s.listed →
          s.timeouts[i] ∉ list.map (·.requestId) → (s.messages.filterMap ConnMsg.cmd? ++ list.map (·.requestId)).Nodup ∧
          ∀ x ∈ s.messages.filterMap ConnMsg.cmd? ++ list.map (·.requestId), x ∈ s.waiting ∧ x ≠ s.timeouts[i] := by
        intro list hsub hnot
        have hsub' := (List.Sublist.refl (s.messages.filterMap ConnMsg.cmd?)).append hsub
        refine ⟨hsub'.nodup h.waiting_nodup, fun x hx => ⟨hsub'.subset hx, ?_⟩⟩
        rintro rfl
        exact (List.mem_append.mp hx).elim hmessages hnot
      unfold handleConnConnectTimeout
      cases hfind : ({ s with timeouts := s.timeouts.eraseIdx i } : AuthConn).findConnRequestByRequestId s.timeouts[i] with
      | none =>
        obtain ⟨hnodup, hwaiting⟩ := hlisted s.connRequestList (.refl _) (by
          simpa [findConnRequestByRequestId] using hfind)
        exact h.answer rfl rfl rfl rfl htimeouts (fun _ hok => nomatch hok) hnodup hwaiting
      | some item =>
        have herase := @UseCount.map_eraseP_key _ _ _ ConnRequest.requestId s.connRequestList s.timeouts[i]
        have hlist : s.listed.Nodup := (List.nodup_append.mp h.waiting_nodup).2.1
        obtain ⟨hnodup, hwaiting⟩ := hlisted (s.connRequestList.eraseP (·.requestId = s.timeouts[i]))
          (herase ▸ List.erase_sublist) (herase ▸ hlist.not_mem_erase)
        exact h.answer rfl rfl rfl rfl htimeouts (fun _ hok => nomatch hok) hnodup hwaiting

theorem Live.writable (h : s.Live) (i : Nat) (ready posted : Bool) : (s.step (.writable i ready posted)).Live := by
  unfold step
  dsimp only
  cases s.sockets[i]? with
  | none => exact h
  | some socket =>
    dsimp only
    unfold processSocketOutEvent
    have hwaiting : (if posted then s.messages ++ [ConnMsg.result socket.fd] else s.messages).filterMap ConnMsg.cmd? =
        s.messages.filterMap ConnMsg.cmd? := by
      split
      · rw [List.filterMap_append]
        exact List.append_nil _
      · rfl
    split
    · refine h.keep rfl rfl (fun x hx => List.mem_append_left _ hx) rfl rfl ?_ ?_
      · rw [AuthConn.waiting, hwaiting]
        exact h.waiting_nodup
      · intro x hx
        rw [AuthConn.waiting, hwaiting] at hx
        exact hx
    · exact h.keep rfl rfl (fun _ => id) rfl rfl h.waiting_nodup fun _ => id

theorem Live.step (h : s.Live) (event : AuthConnEvent) (hbreaks : ¬ s.Breaks event) : (s.step event).Live := by
  cases event with
  | connect timeoutPosted cmdPosted => exact h.connect timeoutPosted cmdPosted hbreaks
  | handle fd mem =>
    unfold AuthConn.step
    dsimp only
    split
    · exact h
    · rename_i hmessages
      exact h.handle_cmd hmessages fd mem
    · rename_i fd' messages hmessages
      refine h.handle_result hmessages fun item hfind => ?_
      by_contra hnot
      exact hbreaks ⟨fd', messages, item, hmessages, hfind, hnot⟩
  | timeout i => exact h.timeout i
  | writable i ready posted => exact h.writable i ready posted

theorem sound_step_iff (event : AuthConnEvent) (h : s.Live) : (s.step event).Sound ↔ ¬ s.Breaks event := by
  refine ⟨fun hsound hbreaks => ?_, fun hbreaks => (h.step event hbreaks).toSound⟩
  cases event with
  | connect timeoutPosted cmdPosted =>
    obtain ⟨rfl, rfl⟩ := hbreaks
    have hlen : (s.accepted ++ [s.nextRequestId]).length = (s.timeouts ++ s.results.map (·.1)).length :=
      hsound.once.length_eq
    rw [← h.once.length_eq] at hlen
    simp at hlen
  | handle fd mem =>
    obtain ⟨fd', messages, item, hmessages, hfind, hnot⟩ := hbreaks
    have hfd : item.fd = fd' := by simpa using List.find?_some hfind
    have hstep : s.step (.handle fd mem) = ({ s with messages } : AuthConn).handleConnConnectResult fd' := by
      simp only [AuthConn.step, hmessages]
    have hfind' : ({ s with messages } : AuthConn).findConnRequestByFd fd' = some item := hfind
    rw [hstep, handleConnConnectResult, hfind'] at hsound
    subst hfd
    exact hnot (hsound.own item.requestId item.fd (List.mem_append_right _ (.head _)))
  | timeout i => exact hbreaks
  | writable i ready posted => exact hbreaks

end

end AuthConn

/-- All connect requests are answered as they should, after each event, if and only if no event breaks it. -/
theorem auth_connect_result_iff (events : List AuthConnEvent) :
    Run.Always AuthConn.step (fun s event => (s.step event).Sound) {} events ↔
      Run.Always AuthConn.step (fun s event => ¬ s.Breaks event) {} events :=
  Run.always_iff_of_inv (I := AuthConn.Live) (s := {}) (fun _ event h => AuthConn.sound_step_iff event h)
    (fun _ event h hsound => h.step event ((AuthConn.sound_step_iff event h).mp hsound))
    ⟨⟨.nil, .nil, by simp⟩, by simp, .nil, by simp [AuthConn.waiting, AuthConn.listed]⟩ events

/-- The first request times out while the result of its socket is on the way. The second one gets the same
descriptor, and with it the success of the first socket. -/
theorem stale_result_reported :
    let s := Run.final AuthConn.step {} [.connect true true, .handle (some 3) true, .connect true true,
      .writable 0 true true, .timeout 0, .handle (some 3) true, .handle none true]
    s.results = [(0, .timeout), (1, .ok 3)] ∧ s.connected = [⟨0, 3⟩] ∧ s.sockets = [⟨1, 3⟩] := by
  decide

end SoftBus
