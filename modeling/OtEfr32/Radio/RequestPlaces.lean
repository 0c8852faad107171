import OtEfr32.Radio.Requests

/-!
# The places of a request

A request of the stack waits in `sPendingCommandQueue`, is executed or completed but unreported, or
was reported.  `RequestsConsistent` is the invariant that carries the conservation of requests: an
accepted request is in exactly one place, and the numbers of the requests to come are not in use.
The calls of the stack keep it, as long as a request that must wait finds room in the queue.
-/


namespace OtEfr32.Radio

open Data Transition

theorem Config.isIid_invalid (config : Config) : config.isIid invalidInterfaceIndex = false := by
  refine Bool.of_not_eq_true fun hiid ↦ ?_
  have hle := config.multipleInstanceNum_le
  cases hmultipan : config.multipan with
  | true =>
    have := (Config.isIid_multipan hmultipan).mp hiid
    simp only [invalidInterfaceIndex] at this
    omega
  | false => exact absurd ((Config.isIid_single hmultipan).mp hiid) (by decide)

namespace Driver

variable {config : Config} {radio next : Driver} {rail : RailResults} {request : Request}

/-- The requests in `sPendingCommandQueue`. -/
def waiting (radio : Driver) : List Request :=
  radio.sPendingCommandQueue.map PendingCommand.toRequest

/-- The requests in all places: those that wait, those that are executed or unreported, and those
that were reported. -/
def places (radio : Driver) : List Request :=
  radio.waiting ++ (radio.tx.begun ++ radio.scan.begun)

/-- Every accepted request is in exactly one place. -/
def ConservationLaw (radio : Driver) : Prop := Conserved radio.accepted radio.places

instance : DecidablePred ConservationLaw := fun radio ↦
  inferInstanceAs (Decidable (Conserved radio.accepted radio.places))

/-- The number of requests of a kind so far. -/
def requestCount (radio : Driver) : RequestKind → ℕ
  | .transmit => radio.tx.requests
  | .energyScan => radio.scan.requests

theorem count_places (radio : Driver) (request : Request) :
    radio.places.count request =
      radio.waiting.count request +
        (radio.tx.begun.count request + radio.scan.begun.count request) := by
  rw [places, List.count_append, List.count_append]

/-- A transmission begins. -/
theorem count_places_tx {more : List Request}
    (hqueue : next.sPendingCommandQueue = radio.sPendingCommandQueue)
    (htx : next.tx.begun = radio.tx.begun ++ more) (hscan : next.scan.begun = radio.scan.begun)
    (request : Request) :
    next.places.count request = radio.places.count request + more.count request := by
  calc
    _ = radio.waiting.count request +
        (radio.tx.begun.count request + more.count request + radio.scan.begun.count request) := by
      rw [count_places, waiting, hqueue, htx, hscan, List.count_append, waiting]
    _ = radio.places.count request + more.count request := by
      rw [count_places]
      omega

/-- A scan begins. -/
theorem count_places_scan {more : List Request}
    (hqueue : next.sPendingCommandQueue = radio.sPendingCommandQueue)
    (htx : next.tx.begun = radio.tx.begun) (hscan : next.scan.begun = radio.scan.begun ++ more)
    (request : Request) :
    next.places.count request = radio.places.count request + more.count request := by
  calc
    _ = radio.waiting.count request +
        (radio.tx.begun.count request + (radio.scan.begun.count request + more.count request)) := by
      rw [count_places, waiting, hqueue, htx, hscan, List.count_append, waiting]
    _ = radio.places.count request + more.count request := by
      rw [count_places]
      omega

/-- A running dwell timer is that of an accepted scan in progress. -/
def ArmedAccepted (radio : Driver) : Prop :=
  radio.scan.timerArmed = true → radio.scan.sEnergyScanStatus = .inProgress ∧
    ∃ request ∈ radio.accepted, radio.scan.scanning = [request]

theorem ArmedAccepted.mono (h : radio.ArmedAccepted)
    (harmed : next.scan.timerArmed = radio.scan.timerArmed)
    (hstatus : next.scan.sEnergyScanStatus = radio.scan.sEnergyScanStatus)
    (hscanning : next.scan.scanning = radio.scan.scanning)
    (haccepted : ∀ request ∈ radio.accepted, request ∈ next.accepted) : next.ArmedAccepted := by
  intro hnext
  obtain ⟨hprogress, request, hrequest, heq⟩ := h (harmed ▸ hnext)
  exact ⟨hstatus.trans hprogress, request, haccepted request hrequest, hscanning.trans heq⟩

/-- The invariant of the requests. -/
structure RequestsConsistent (config : Config) (radio : Driver) : Prop where
  conserved : radio.ConservationLaw
  /-- The numbers from `requests` on are unused. -/
  numbers : ∀ request ∈ radio.accepted ++ radio.places,
    request.number < radio.requestCount request.kind
  waiting : ∀ request ∈ radio.waiting, request ∈ radio.accepted
  isIid : ∀ request ∈ radio.accepted, config.isIid request.iid = true
  armed : radio.ArmedAccepted
  rssiCall : radio.rssiCall = none

/-- The queue has room for a request. -/
def HasRoom (config : Config) (radio : Driver) : Prop :=
  radio.sPendingCommandQueue.length < config.radioRequestBufferCount

instance (config : Config) (radio : Driver) : Decidable (radio.HasRoom config) := Nat.decLt _ _

namespace RequestsConsistent

theorem fresh (h : RequestsConsistent config radio)
    (hnumber : radio.requestCount request.kind ≤ request.number) :
    request ∉ radio.accepted ∧ request ∉ radio.places := by
  constructor
  · exact fun hmem ↦ absurd (h.numbers request (List.mem_append_left _ hmem)) (by omega)
  · exact fun hmem ↦ absurd (h.numbers request (List.mem_append_right _ hmem)) (by omega)

/-! ## Rules for a step -/

/-- A step that moves requests between the places and brings the new requests `more`, of which it
accepts `taken`. -/
theorem of_places (h : RequestsConsistent config radio) (more taken : List Request)
    (haccepted : next.accepted = radio.accepted ++ taken)
    (hplaces : ∀ request, next.places.count request =
      radio.places.count request + more.count request)
    (hmore : ∀ request ∈ more, radio.requestCount request.kind ≤ request.number ∧
      request.number < next.requestCount request.kind)
    (htaken : ∀ request ∈ taken, more.count request = 1 ∧ config.isIid request.iid = true)
    (hrequests : ∀ kind, radio.requestCount kind ≤ next.requestCount kind)
    (hwaiting : ∀ request ∈ next.waiting, request ∈ radio.waiting ++ taken)
    (harmed : next.ArmedAccepted) (hcall : next.rssiCall = radio.rssiCall) :
    RequestsConsistent config next where
  conserved := by
    unfold ConservationLaw
    rw [haccepted]
    exact h.conserved.of_count hplaces (fun request hmem ↦ h.fresh (hmore request hmem).1)
      fun request hmem ↦ (htaken request hmem).1
  numbers := by
    intro request hrequest
    have hbefore : request ∈ radio.accepted ++ radio.places ∨ request ∈ more := by
      rw [haccepted, List.mem_append, List.mem_append] at hrequest
      rcases hrequest with (hmem | hmem) | hmem
      · exact .inl (List.mem_append_left _ hmem)
      · exact .inr (List.count_pos_iff.mp (by rw [(htaken request hmem).1]; decide))
      · have hcount := List.count_pos_iff.mpr hmem
        rw [hplaces, Nat.add_pos_iff_pos_or_pos] at hcount
        exact hcount.imp (fun hpos ↦ List.mem_append_right _ (List.count_pos_iff.mp hpos))
          List.count_pos_iff.mp
    rcases hbefore with hold | hnew
    · exact (h.numbers request hold).trans_le (hrequests _)
    · exact (hmore request hnew).2
  waiting := by
    intro request hrequest
    rw [haccepted]
    rcases List.mem_append.mp (hwaiting request hrequest) with hold | hnew
    · exact List.mem_append_left _ (h.waiting request hold)
    · exact List.mem_append_right _ hnew
  isIid := by
    intro request hrequest
    rw [haccepted] at hrequest
    rcases List.mem_append.mp hrequest with hold | hnew
    · exact h.isIid request hold
    · exact (htaken request hnew).2
  armed := harmed
  rssiCall := hcall.trans h.rssiCall

/-- A step that accepts a new request and puts it in one place. -/
theorem of_accept (h : RequestsConsistent config radio) (request : Request)
    (haccepted : next.accepted = radio.accepted ++ [request])
    (hplaces : ∀ other, next.places.count other =
      radio.places.count other + [request].count other)
    (hnumber : request.number = radio.requestCount request.kind)
    (hcounted : radio.requestCount request.kind < next.requestCount request.kind)
    (hiid : config.isIid request.iid = true)
    (hrequests : ∀ kind, radio.requestCount kind ≤ next.requestCount kind)
    (hwaiting : ∀ other ∈ next.waiting, other ∈ radio.waiting ++ [request])
    (harmed : next.ArmedAccepted) (hcall : next.rssiCall = radio.rssiCall) :
    RequestsConsistent config next := by
  refine h.of_places [request] [request] haccepted hplaces (fun other hmem ↦ ?_)
    (fun other hmem ↦ ?_) hrequests hwaiting harmed hcall
  · obtain rfl := List.mem_singleton.mp hmem
    exact ⟨hnumber.ge, hnumber ▸ hcounted⟩
  · obtain rfl := List.mem_singleton.mp hmem
    exact ⟨List.count_singleton_self, hiid⟩

/-- A step that leaves the queue and what has begun alone. -/
theorem of_begun (h : RequestsConsistent config radio)
    (haccepted : next.accepted = radio.accepted)
    (hqueue : next.sPendingCommandQueue = radio.sPendingCommandQueue)
    (htx : next.tx.begun = radio.tx.begun) (hscan : next.scan.begun = radio.scan.begun)
    (hrequests : ∀ kind, radio.requestCount kind ≤ next.requestCount kind)
    (harmed : next.ArmedAccepted) (hcall : next.rssiCall = radio.rssiCall) :
    RequestsConsistent config next := by
  refine h.of_places [] [] (by rw [haccepted, List.append_nil])
    (fun request ↦ ?_) nofun nofun hrequests ?_ harmed hcall
  · rw [count_places, count_places, htx, hscan, Driver.waiting, hqueue]
    rfl
  · rw [Driver.waiting, hqueue, List.append_nil]
    exact fun request hrequest ↦ hrequest

/-- A step that leaves the scan alone, too. -/
theorem of_eq (h : RequestsConsistent config radio) (haccepted : next.accepted = radio.accepted)
    (hqueue : next.sPendingCommandQueue = radio.sPendingCommandQueue)
    (hbegun : next.tx.begun = radio.tx.begun) (hrequests : radio.tx.requests ≤ next.tx.requests)
    (hscan : next.scan = radio.scan) (hcall : next.rssiCall = radio.rssiCall) :
    RequestsConsistent config next := by
  refine h.of_begun haccepted hqueue hbegun (by rw [hscan]) ?_ ?_ hcall
  · rintro (- | -)
    · exact hrequests
    · exact (congrArg EnergyScan.requests hscan).ge
  · exact h.armed.mono (by rw [hscan]) (by rw [hscan]) (by rw [hscan])
      fun request hrequest ↦ haccepted ▸ hrequest

/-- The dwell timer of an idle scan is not running. -/
theorem unarmed (h : RequestsConsistent config radio)
    (hstatus : radio.scan.sEnergyScanStatus ≠ .inProgress) : radio.scan.timerArmed = false :=
  Bool.of_not_eq_true fun harmed ↦ hstatus (h.armed harmed).1

end RequestsConsistent

/-! ## Calls of the stack -/

theorem isRadioTransmittingOrScanning_eq_false :
    radio.isRadioTransmittingOrScanning = false ↔
      radio.scan.sEnergyScanStatus = .idle ∧ radio.tx.isBusy = false := by
  simp [isRadioTransmittingOrScanning]

/-- A request that finds room waits. -/
theorem pushPendingCommand_room (radio : Driver) (hroom : radio.HasRoom config)
    (request : PendingRequest) (iid : ℕ) :
    radio.pushPendingCommand config request iid =
      { radio with
        sPendingCommandQueue := radio.sPendingCommandQueue ++ [⟨request, iid % 4⟩] } :=
  if_pos hroom

/-- A request that finds no room is dropped. -/
theorem pushPendingCommand_full (radio : Driver) (hfull : ¬ radio.HasRoom config)
    (request : PendingRequest) (iid : ℕ) :
    radio.pushPendingCommand config request iid =
      { radio with pendingOverflows := radio.pendingOverflows + 1 } :=
  if_neg hfull

/-- `otPlatRadioTransmit` for a frame that is not one of Green Power. -/
theorem otPlatRadioTransmit_pal (hmultipan : config.multipan = true)
    (hpal : config.canAccessPal = true) (iid aFrame request : ℕ) :
    radio.otPlatRadioTransmit config rail false iid aFrame request =
      if radio.isRadioTransmittingOrScanning then
        (.none, (radio.mapTx fun tx ↦ tx.acceptFrame config iid aFrame).pushPendingCommand config
          (.transmit aFrame request) iid)
      else (radio.mapTx fun tx ↦ tx.acceptFrame config iid aFrame).transmitNow config rail iid
        aFrame request := by
  unfold otPlatRadioTransmit
  rw [if_neg (by rw [hpal]; decide), if_neg (by rw [Bool.and_false]; decide)]
  simp only [hmultipan, Bool.true_and, acceptFrame_isBusy]

theorem otPlatRadioTransmit_free (radio : Driver) (hmultipan : config.multipan = true)
    (hpal : config.canAccessPal = true) (hfree : radio.isRadioTransmittingOrScanning = false)
    (iid aFrame request : ℕ) :
    radio.otPlatRadioTransmit config rail false iid aFrame request =
      (radio.mapTx fun tx ↦ tx.acceptFrame config iid aFrame).transmitNow config rail iid aFrame
        request := by
  rw [otPlatRadioTransmit_pal hmultipan hpal, if_neg (ne_true_of_eq_false hfree)]

/-- The driver when `otPlatRadioTransmit` has made its assertions for a call of the stack. -/
def acceptTransmit (config : Config) (radio : Driver) (iid : ℕ) : Driver :=
  (radio.mapTx Transmitter.countRequest).mapTx fun tx ↦
    tx.acceptFrame config iid (txBufIndex iid)

theorem transmit_busy (hmultipan : config.multipan = true) (hpal : config.canAccessPal = true)
    (hbusy : radio.isRadioTransmittingOrScanning = true) (iid : ℕ) :
    radio.transmit config iid rail false =
      ((acceptTransmit config radio iid).pushPendingCommand config
        (.transmit (txBufIndex iid) radio.tx.requests) iid).accept
          ⟨.transmit, iid, radio.tx.requests⟩ := by
  have hbusy' : (radio.mapTx Transmitter.countRequest).isRadioTransmittingOrScanning = true :=
    hbusy
  unfold transmit
  simp only
  rw [otPlatRadioTransmit_pal hmultipan hpal, if_pos hbusy', if_pos ⟨rfl, Bool.and_false _⟩]
  rfl

theorem transmit_free (hmultipan : config.multipan = true) (hpal : config.canAccessPal = true)
    (hfree : radio.isRadioTransmittingOrScanning = false) (iid : ℕ) :
    radio.transmit config iid rail false =
      if ((acceptTransmit config radio iid).transmitNow config rail iid (txBufIndex iid)
          radio.tx.requests).1 = .none then
        ((acceptTransmit config radio iid).transmitNow config rail iid (txBufIndex iid)
          radio.tx.requests).2.accept ⟨.transmit, iid, radio.tx.requests⟩
      else ((acceptTransmit config radio iid).transmitNow config rail iid (txBufIndex iid)
        radio.tx.requests).2 := by
  unfold transmit
  simp only
  rw [otPlatRadioTransmit_free (radio.mapTx Transmitter.countRequest) hmultipan hpal hfree]
  exact if_congr (and_iff_left (Bool.and_false _)) rfl rfl

/-- No transmission is under way or unreported while the radio is free. -/
theorem idle_of_free (h : TxConsistent config radio)
    (hfree : radio.isRadioTransmittingOrScanning = false) : radio.tx.InPhase config .idle := by
  obtain ⟨phase, hphase⟩ := h.phase
  have hidle := hphase.isBusy
  rw [(isRadioTransmittingOrScanning_eq_false.mp hfree).2] at hidle
  cases phase with
  | idle => exact hphase
  | _ => contradiction

/-- A frame on a valid channel is sent. -/
theorem transmitNow_begun (radio : Driver) (rail : RailResults)
    (hidle : radio.tx.InPhase config .idle) {iid : ℕ} (hiid : config.isIid iid = true)
    (aFrame : ℕ)
    (hband : config.hasBandConfig (radio.tx.sTransmitBuffer aFrame).frame.mChannel = true)
    (request : ℕ) :
    ∃ tx security power railChannel transmissionStarts,
      radio.transmitNow config rail iid aFrame request =
        (.none, { radio with tx, security, power, railChannel, transmissionStarts }) ∧
      tx.requests = radio.tx.requests ∧
      tx.begun = radio.tx.begun ++ [⟨.transmit, iid, request⟩] := by
  unfold transmitNow
  simp only
  rw [if_pos hband]
  obtain ⟨railChannel, transmissionStarts, heq⟩ := recordStart_eq
    ((((radio.efr32RadioLoadChannelConfig (radio.slGetTxPowerForCurrentChannel config)).mapTx
      fun tx ↦ tx.makeCurrent iid request).secureCurrentPacket config iid).mapTx
        fun tx ↦ tx.startTransmission rail) config rail
    (radio.tx.sTransmitBuffer aFrame).frame.mChannel
  rw [heq]
  refine ⟨_, _, _, railChannel, transmissionStarts, rfl, ?_,
    Transmitter.startTransmission_begun hidle hiid request _ rail⟩
  exact (Transmitter.startTransmission_sameRequest ..).requests.trans
    (Transmitter.makeCurrent_eq radio.tx iid request).1

/-- `otPlatRadioEnergyScan` while the radio is free. -/
theorem otPlatRadioEnergyScan_free (radio : Driver) (rail : RailResults)
    (hpal : config.canAccessPal = true)
    (hfree : radio.isRadioTransmittingOrScanning = false)
    (iid request aScanChannel aScanDuration : ℕ) :
    ∃ railChannel, radio.otPlatRadioEnergyScan config rail iid request aScanChannel aScanDuration =
      ((radio.scan.startRequest config rail iid request aScanChannel aScanDuration).1,
        { radio with
          railChannel
          scan :=
            (radio.scan.startRequest config rail iid request aScanChannel aScanDuration).2 }) := by
  unfold otPlatRadioEnergyScan
  rw [if_neg (by rw [hpal]; decide), if_neg (by rw [hfree, Bool.and_false]; decide)]
  simp only
  split
  · exact ⟨_, rfl⟩
  · exact ⟨radio.railChannel, rfl⟩

theorem energyScan_busy (hmultipan : config.multipan = true) (hpal : config.canAccessPal = true)
    (hbusy : radio.isRadioTransmittingOrScanning = true) (iid aScanChannel aScanDuration : ℕ) :
    radio.energyScan config iid aScanChannel aScanDuration rail =
      ((radio.mapScan EnergyScan.countRequest).pushPendingCommand config
        (.energyScan aScanChannel aScanDuration radio.scan.requests) iid).accept
          ⟨.energyScan, iid, radio.scan.requests⟩ := by
  have hbusy' : (config.multipan &&
      (radio.mapScan EnergyScan.countRequest).isRadioTransmittingOrScanning) = true := by
    rw [hmultipan]
    exact hbusy
  unfold energyScan otPlatRadioEnergyScan
  simp only [hpal, hbusy', ↓reduceIte, Bool.true_eq_false]

namespace RequestsConsistent

/-- A request that is deferred. -/
theorem defer (h : RequestsConsistent config radio) {iid : ℕ} (hiid : config.isIid iid = true)
    (pending : PendingRequest) (hnumber : pending.number = radio.requestCount pending.kind)
    (haccepted : next.accepted = radio.accepted ++ [⟨pending.kind, iid, pending.number⟩])
    (hqueue : next.sPendingCommandQueue = radio.sPendingCommandQueue ++ [⟨pending, iid % 4⟩])
    (htx : next.tx.begun = radio.tx.begun) (hscan : next.scan.begun = radio.scan.begun)
    (hnext : radio.requestCount pending.kind < next.requestCount pending.kind)
    (hrequests : ∀ kind, radio.requestCount kind ≤ next.requestCount kind)
    (harmed : next.ArmedAccepted) (hcall : next.rssiCall = radio.rssiCall) :
    RequestsConsistent config next := by
  have hwaiting : next.waiting = radio.waiting ++ [⟨pending.kind, iid, pending.number⟩] := by
    rw [Driver.waiting, hqueue, List.map_append, List.map_singleton, PendingCommand.toRequest,
      TxConsistent.mod_iid config hiid]
    rfl
  refine h.of_accept _ haccepted (fun request ↦ ?_) hnumber hnext hiid hrequests ?_ harmed hcall
  · rw [count_places, count_places, hwaiting, htx, hscan, List.count_append]
    omega
  · rw [hwaiting]
    exact fun request hmem ↦ hmem

theorem countTransmit (h : RequestsConsistent config radio) :
    RequestsConsistent config (radio.mapTx Transmitter.countRequest) :=
  h.of_eq rfl rfl rfl (Nat.le_succ _) rfl rfl

theorem acceptTransmit (h : RequestsConsistent config radio) (iid : ℕ) :
    RequestsConsistent config (radio.acceptTransmit config iid) ∧
      (radio.acceptTransmit config iid).tx.requests = radio.tx.requests + 1 ∧
      (radio.acceptTransmit config iid).tx.begun = radio.tx.begun := by
  have hrequests := radio.tx.countRequest.acceptFrame_requests config iid (txBufIndex iid)
  have hbegun := radio.tx.countRequest.acceptFrame_begun config iid (txBufIndex iid)
  exact ⟨h.of_eq rfl rfl hbegun (hrequests.ge.trans' (Nat.le_succ _)) rfl rfl, hrequests, hbegun⟩

/-- While the radio is busy, the frame joins the queue. -/
theorem transmit_of_busy (h : RequestsConsistent config radio) (hmultipan : config.multipan = true)
    {iid : ℕ} (hiid : config.isIid iid = true) (hpal : config.canAccessPal = true)
    (hbusy : radio.isRadioTransmittingOrScanning = true) (hroom : radio.HasRoom config) :
    RequestsConsistent config (radio.transmit config iid rail false) := by
  obtain ⟨haccepted, hrequests, hbegun⟩ := h.acceptTransmit iid
  have hcounted : radio.tx.requests < (Driver.acceptTransmit config radio iid).tx.requests := by
    omega
  rw [transmit_busy hmultipan hpal hbusy,
    pushPendingCommand_room (Driver.acceptTransmit config radio iid) hroom]
  refine h.defer hiid (.transmit (txBufIndex iid) radio.tx.requests) rfl rfl rfl
    hbegun rfl hcounted ?_ ?_ rfl
  · rintro (- | -)
    · exact hcounted.le
    · exact le_rfl
  · exact h.armed.mono rfl rfl rfl fun request ↦ List.mem_append_left _

/-- While the radio is free, the frame is transmitted, unless its channel is invalid. -/
theorem transmit_of_free (h : RequestsConsistent config radio) (htx : TxConsistent config radio)
    (hmultipan : config.multipan = true) {iid : ℕ} (hiid : config.isIid iid = true)
    (hpal : config.canAccessPal = true) (hfree : radio.isRadioTransmittingOrScanning = false) :
    RequestsConsistent config (radio.transmit config iid rail false) := by
  obtain ⟨haccepted, hrequests, hbegun⟩ := h.acceptTransmit iid
  rw [transmit_free hmultipan hpal hfree]
  by_cases hband : config.hasBandConfig ((Driver.acceptTransmit config radio
      iid).tx.sTransmitBuffer (txBufIndex iid)).frame.mChannel = true
  case neg =>
    have hinvalid : (Driver.acceptTransmit config radio iid).transmitNow config rail iid
        (txBufIndex iid) radio.tx.requests =
          (.invalidArgs, Driver.acceptTransmit config radio iid) := if_neg hband
    rw [hinvalid]
    exact haccepted
  case pos =>
    have hphase : radio.tx.countRequest.InPhase config .idle := { idle_of_free htx hfree with }
    have hidle : (Driver.acceptTransmit config radio iid).tx.InPhase config .idle :=
      Transmitter.acceptFrame_inPhase hphase hiid
    obtain ⟨tx, security, power, railChannel, transmissionStarts, hnow, hkept, hstarted⟩ :=
      transmitNow_begun (Driver.acceptTransmit config radio iid) rail hidle hiid
        (txBufIndex iid) hband radio.tx.requests
    rw [hnow, if_pos rfl]
    rw [hbegun] at hstarted
    have hcounted : radio.tx.requests < tx.requests := by omega
    refine h.of_accept ⟨.transmit, iid, radio.tx.requests⟩ rfl
      (count_places_tx rfl hstarted rfl) rfl hcounted hiid ?_ ?_ ?_ rfl
    · rintro (- | -)
      · exact hcounted.le
      · exact le_rfl
    · exact fun request ↦ List.mem_append_left _
    · exact h.armed.mono rfl rfl rfl fun request ↦ List.mem_append_left _

theorem transmit (h : RequestsConsistent config radio) (htx : TxConsistent config radio)
    (hmultipan : config.multipan = true) {iid : ℕ} (hiid : config.isIid iid = true)
    (gpBuffers : Bool)
    (hroom : config.canAccessPal = true → gpBuffers = false →
      radio.isRadioTransmittingOrScanning = true → radio.HasRoom config) :
    RequestsConsistent config (radio.transmit config iid rail gpBuffers) := by
  by_cases hpal : config.canAccessPal = true
  case neg =>
    unfold Driver.transmit otPlatRadioTransmit
    simp only [Bool.of_not_eq_true hpal, ↓reduceIte]
    exact h.countTransmit
  cases gpBuffers with
  | true =>
    unfold Driver.transmit otPlatRadioTransmit
    simp only [hpal, hmultipan, Bool.and_true, ↓reduceIte]
    exact h.countTransmit
  | false =>
    by_cases hbusy : radio.isRadioTransmittingOrScanning = true
    case pos => exact h.transmit_of_busy hmultipan hiid hpal hbusy (hroom hpal rfl hbusy)
    case neg => exact h.transmit_of_free htx hmultipan hiid hpal (Bool.of_not_eq_true hbusy)

theorem requestCount_countRequest (radio : Driver) (kind : RequestKind) :
    radio.requestCount kind ≤ (radio.mapScan EnergyScan.countRequest).requestCount kind := by
  cases kind with
  | transmit => exact le_rfl
  | energyScan => exact Nat.le_succ _

/-- While the radio is free, the scan is started, or refused. -/
theorem energyScan_of_free (h : RequestsConsistent config radio) {iid : ℕ}
    (hiid : config.isIid iid = true) (aScanChannel aScanDuration : ℕ)
    (hpal : config.canAccessPal = true) (hfree : radio.isRadioTransmittingOrScanning = false) :
    RequestsConsistent config (radio.energyScan config iid aScanChannel aScanDuration rail) := by
  have hidle := (isRadioTransmittingOrScanning_eq_false.mp hfree).1
  have hunarmed := h.unarmed (by rw [hidle]; nofun)
  obtain ⟨railChannel, hscan⟩ := otPlatRadioEnergyScan_free
    (radio.mapScan EnergyScan.countRequest) rail hpal hfree iid
    radio.scan.requests aScanChannel aScanDuration
  have houtcome := EnergyScan.startRequest_outcome radio.scan.countRequest config rail iid
    radio.scan.requests aScanChannel aScanDuration hidle hunarmed
  have hbegun := houtcome.begun_eq hidle hunarmed
  have hscanning := houtcome.scanning_eq hidle
  unfold Driver.energyScan
  simp only
  rw [hscan]
  change RequestsConsistent config (if (radio.scan.countRequest.startRequest config rail iid
    radio.scan.requests aScanChannel aScanDuration).1 = .none then _ else _)
  simp only [mapScan]
  generalize radio.scan.countRequest.startRequest config rail iid radio.scan.requests
    aScanChannel aScanDuration = result at houtcome hbegun hscanning
  have hcounted : radio.scan.requests < result.2.requests := by
    rw [houtcome.requests]
    exact Nat.lt_succ_self _
  have hrequests : ∀ kind, radio.requestCount kind ≤
      Driver.requestCount { radio with railChannel, scan := result.2 } kind := by
    rintro (- | -)
    · exact le_rfl
    · exact hcounted.le
  split
  case isTrue hnone =>
    have harmed := houtcome.none_iff.mp hnone
    have hexecutes := houtcome.executes_iff.mp (.inl harmed)
    rw [if_pos hexecutes] at hscanning hbegun
    refine h.of_accept ⟨.energyScan, iid, radio.scan.requests⟩ rfl
      (count_places_scan rfl rfl hbegun) rfl hcounted hiid hrequests
      (fun request ↦ List.mem_append_left _) (fun _ ↦ ?_) rfl
    exact ⟨houtcome.inProgress harmed, _, List.mem_append_right _ List.mem_cons_self, hscanning⟩
  case isFalse herror =>
    refine h.of_places _ [] (List.append_nil _).symm
      (count_places_scan rfl rfl hbegun) (fun request hmem ↦ ?_) nofun hrequests
      (fun request ↦ List.mem_append_left _) (fun harmed ↦ ?_) rfl
    · split at hmem
      · obtain rfl := List.mem_singleton.mp hmem
        exact ⟨le_rfl, hcounted⟩
      · contradiction
    · exact absurd (houtcome.none_iff.mpr harmed) herror

theorem energyScan (h : RequestsConsistent config radio) (hmultipan : config.multipan = true)
    {iid : ℕ} (hiid : config.isIid iid = true) (aScanChannel aScanDuration : ℕ)
    (hroom : config.canAccessPal = true → radio.isRadioTransmittingOrScanning = true →
      radio.HasRoom config) :
    RequestsConsistent config (radio.energyScan config iid aScanChannel aScanDuration rail) := by
  have hrequests := requestCount_countRequest radio
  by_cases hpal : config.canAccessPal = true
  case neg =>
    unfold Driver.energyScan Driver.otPlatRadioEnergyScan
    simp only [Bool.of_not_eq_true hpal, ↓reduceIte]
    exact h.of_begun rfl rfl rfl rfl hrequests (h.armed.mono rfl rfl rfl fun _ ↦ id) rfl
  by_cases hbusy : radio.isRadioTransmittingOrScanning = true
  case pos =>
    rw [energyScan_busy hmultipan hpal hbusy,
      pushPendingCommand_room (radio.mapScan EnergyScan.countRequest) (hroom hpal hbusy)]
    exact h.defer hiid (.energyScan aScanChannel aScanDuration radio.scan.requests) rfl
      rfl rfl rfl rfl (Nat.lt_succ_self _) hrequests
      (h.armed.mono rfl rfl rfl fun request ↦ List.mem_append_left _) rfl
  case neg =>
    exact h.energyScan_of_free hiid aScanChannel aScanDuration hpal (Bool.of_not_eq_true hbusy)

end RequestsConsistent

end Driver

end OtEfr32.Radio
