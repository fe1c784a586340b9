import TrillionniumGame.Runtime.Contract.Evidence

namespace Contract
open Checks DigestTable Framing GoText

inductive Record where
  | authorizationClaim (claim : AuthorizationClaim)
  | authorizationSignature (claim : AuthorizationClaim) (issuerKeyID : GoString)
  | command (command : CommandEnvelope)
  | commandFingerprint (command : CommandEnvelope)
  | eventFacts (event : MatchEvent)
  | eventID (matchID : GoString) (sequence : UInt64) (causationID : GoString)
  | archive (events : List MatchEvent)
  | roster (entries : List RosterEntry)
  | terminalFacts (facts : TerminalFacts)
  | completion (completion : MatchCompletedV1)
  | commitment (matchID : GoString) (eventRoot archiveHash : Digest)

def Record.encode (crypto : Crypto) : Record → Except String GoString
  | .authorizationClaim claim => claim.canonicalBytes
  | .authorizationSignature claim issuerKeyID => authorizationSigningBytes claim issuerKeyID
  | .command c => c.signingBytes crypto
  | .commandFingerprint c => fingerprintBytes crypto c
  | .eventFacts event => event.factsBytes crypto
  | .eventID matchID sequence causationID => eventIDBytes matchID sequence causationID
  | .archive events => canonicalArchive crypto events
  | .roster entries => rosterBytes entries
  | .terminalFacts facts => facts.canonicalBytes
  | .completion c => c.signingBytes crypto
  | .commitment matchID eventRoot archiveHash => commitmentBytes matchID eventRoot archiveHash

def Record.framed : Record → Record
  | .command c => .command { c with signature := [] }
  | .eventFacts event => .eventFacts { event with eventHash := [] }
  | .roster entries => .roster (ordered entries)
  | .completion c => .completion { c with signature := [] }
  | record => record

def Record.tag : Record → String
  | .authorizationClaim _ => "trnm_match_authorization_claim_v1"
  | .authorizationSignature _ _ => "trnm_match_authorization_signature_v1"
  | .command _ => "trnm_match_command_signature_v1"
  | .commandFingerprint _ => "trnm_match_command_fingerprint_v1"
  | .eventFacts _ => "trnm_match_event_v1"
  | .eventID _ _ _ => "trnm_match_event_id_v1"
  | .archive _ => "trnm_match_event_archive_v1"
  | .roster _ => "trnm_match_roster_v1"
  | .terminalFacts _ => "trnm_match_terminal_facts_v1"
  | .completion _ => "trnm_match_completed_signature_v1"
  | .commitment _ _ _ => "trnm_match_commitment_id_v1"

variable {crypto : Crypto}

theorem str_inj {s t : String} (h : str s = str t) : s = t := by
  rw [← String.toByteArray_inj]
  exact ByteArray.ext (Array.toList_inj.mp h)

theorem tag_no_nul (r : Record) : (0 : UInt8) ∉ str r.tag := by
  cases r <;> exact of_decide_eq_true (by rfl)

variable {fs gs : List Field} {b : GoString}

theorem frame_tag {r s : Record} (hf : frame (str r.tag) fs = .ok b)
    (hg : frame (str s.tag) gs = .ok b) : r.tag = s.tag := by
  obtain ⟨body, _, rfl⟩ := frame_ok.mp hf
  obtain ⟨body', _, heq⟩ := frame_ok.mp hg
  exact str_inj (tag_peel (tag_no_nul r) (tag_no_nul s) heq).1

theorem frame_body {domain : GoString} (hf : frame domain fs = .ok b)
    (hg : frame domain gs = .ok b) :
    ∃ body, encodeAll Field.encode fs = .ok body ∧ encodeAll Field.encode gs = .ok body := by
  obtain ⟨body, hbody, rfl⟩ := frame_ok.mp hf
  obtain ⟨body', hbody', heq⟩ := frame_ok.mp hg
  cases (List.cons.inj (List.append_cancel_left heq)).2
  exact ⟨body, hbody, hbody'⟩

theorem fields_inj (hsame : List.Forall₂ Field.SameKind fs gs)
    (hf : encodeAll Field.encode fs = .ok b) (hg : encodeAll Field.encode gs = .ok b) : fs = gs :=
  (field_selfDelimiting.peelAll hsame hf hg (rfl : b ++ [] = b ++ [])).1

theorem i64_inj {a b : Int64} : i64 a = i64 b ↔ a = b := by
  constructor
  · intro h
    exact congrArg Int64.ofUInt64 (Field.u64.inj h)
  · rintro rfl
    rfl

attribute [simp] Field.SameKind.text Field.SameKind.u32 Field.SameKind.u64 Field.SameKind.digest

@[simp]
theorem i64_sameKind (a b : Int64) : Field.SameKind (i64 a) (i64 b) := .u64 _ _

section
attribute [local simp] AuthorizationClaim.fields CommandEnvelope.fields MatchEvent.fields
  RosterEntry.fields TerminalFacts.fields MatchCompletedV1.fields i64_inj

variable {b : GoString} {b : GoString} {c d : AuthorizationClaim}

theorem claim_inj (hc : c.canonicalBytes = .ok b) (hd : d.canonicalBytes = .ok b) : c = d := by
  simp only [AuthorizationClaim.canonicalBytes, bind_ok] at hc hd
  obtain ⟨_, _, hc⟩ := hc
  obtain ⟨_, _, hd⟩ := hd
  obtain ⟨body, hc, hd⟩ := frame_body hc hd
  have h := fields_inj (by simp) hc hd
  obtain ⟨⟩ := c
  obtain ⟨⟩ := d
  simpa [and_assoc] using h

theorem authorizationSignature_inj {id id' : GoString}
    (hc : authorizationSigningBytes c id = .ok b) (hd : authorizationSigningBytes d id' = .ok b) :
    c = d ∧ id = id' := by
  simp only [authorizationSigningBytes, bind_ok] at hc hd
  obtain ⟨_, _, claim, hclaim, hc⟩ := hc
  obtain ⟨_, _, claim', hclaim', hd⟩ := hd
  obtain ⟨body, hc, hd⟩ := frame_body hc hd
  have h := fields_inj (by simp) hc hd
  simp only [List.cons.injEq, Field.text.injEq, and_true] at h
  obtain ⟨rfl, rfl⟩ := h
  exact ⟨claim_inj hclaim hclaim', rfl⟩

theorem command_inj {c d : CommandEnvelope} (hc : c.signingBytes crypto = .ok b)
    (hd : d.signingBytes crypto = .ok b) :
    { c with signature := [] } = { d with signature := [] } := by
  simp only [CommandEnvelope.signingBytes, bind_ok] at hc hd
  obtain ⟨_, _, hc⟩ := hc
  obtain ⟨_, _, hd⟩ := hd
  obtain ⟨body, hc, hd⟩ := frame_body hc hd
  have h := fields_inj (by simp) hc hd
  obtain ⟨⟩ := c
  obtain ⟨⟩ := d
  simpa [and_assoc] using h

theorem fingerprint_inj {c d : CommandEnvelope} (hc : fingerprintBytes crypto c = .ok b)
    (hd : fingerprintBytes crypto d = .ok b) : c = d := by
  simp only [fingerprintBytes, bind_ok] at hc hd
  obtain ⟨message, hmessage, hc⟩ := hc
  obtain ⟨message', hmessage', hd⟩ := hd
  obtain ⟨body, hc, hd⟩ := frame_body hc hd
  have h := fields_inj (by simp) hc hd
  simp only [List.cons.injEq, Field.text.injEq, and_true] at h
  obtain ⟨rfl, hsignature⟩ := h
  have hcommand := command_inj hmessage hmessage'
  calc
    c = { { c with signature := [] } with signature := c.signature } := rfl
    _ = { { d with signature := [] } with signature := d.signature } := by
      rw [hcommand, hsignature]
    _ = d := rfl

theorem event_inj {e f : MatchEvent} (he : e.factsBytes crypto = .ok b)
    (hf : f.factsBytes crypto = .ok b) :
    { e with eventHash := [] } = { f with eventHash := [] } := by
  simp only [MatchEvent.factsBytes, bind_ok] at he hf
  obtain ⟨_, _, he⟩ := he
  obtain ⟨_, _, hf⟩ := hf
  obtain ⟨body, he, hf⟩ := frame_body he hf
  have h := fields_inj (by simp) he hf
  obtain ⟨⟩ := e
  obtain ⟨⟩ := f
  simpa [and_assoc] using h

variable {m m' : GoString}

theorem eventID_inj {c c' : GoString} {n n' : UInt64} (h : eventIDBytes m n c = .ok b)
    (h' : eventIDBytes m' n' c' = .ok b) : m = m' ∧ n = n' ∧ c = c' := by
  simp only [eventIDBytes, bind_ok] at h h'
  obtain ⟨_, _, _, _, _, _, h⟩ := h
  obtain ⟨_, _, _, _, _, _, h'⟩ := h'
  obtain ⟨body, h, h'⟩ := frame_body h h'
  have heq := fields_inj (by simp) h h'
  simp only [List.cons.injEq, Field.text.injEq, Field.u64.injEq, and_true] at heq
  obtain ⟨hm, hc, hn⟩ := heq
  exact ⟨hm, hn, hc⟩

variable {fields : List Field}

theorem archiveFields_cons {event : MatchEvent} {rest : List MatchEvent}
    (h : archiveFields crypto (event :: rest) = .ok fields) :
    ∃ facts raw tail, event.factsBytes crypto = .ok facts ∧
      Digest.bytes event.eventHash = .ok raw ∧ archiveFields crypto rest = .ok tail ∧
      fields = .text facts :: .text raw.toList :: tail := by
  simp only [archiveFields, bind_ok] at h
  obtain ⟨facts, hfacts, raw, hraw, tail, htail, h⟩ := h
  exact ⟨facts, raw, tail, hfacts, hraw, htail, (Except.ok.inj h).symm⟩

variable {es fs : List MatchEvent}

theorem archiveFields_inj (he : archiveFields crypto es = .ok fields)
    (hf : archiveFields crypto fs = .ok fields) : es = fs := by
  induction es generalizing fs fields with
  | nil =>
    cases he
    cases fs with
    | nil => rfl
    | cons f fs =>
      obtain ⟨_, _, _, _, _, _, h⟩ := archiveFields_cons hf
      cases h
  | cons e es ih =>
    obtain ⟨facts, raw, tail, hfacts, hraw, htail, rfl⟩ := archiveFields_cons he
    cases fs with
    | nil => cases hf
    | cons f fs =>
      obtain ⟨facts', raw', tail', hfacts', hraw', htail', h⟩ := archiveFields_cons hf
      simp only [List.cons.injEq, Field.text.injEq, Vector.toList_inj] at h
      obtain ⟨rfl, rfl, rfl⟩ := h
      have hevent := event_inj hfacts hfacts'
      have hhash := bytes_inj hraw hraw'
      rw [ih htail htail']
      congr 1
      calc
        e = { { e with eventHash := [] } with eventHash := e.eventHash } := rfl
        _ = { { f with eventHash := [] } with eventHash := f.eventHash } := by rw [hevent, hhash]
        _ = f := rfl

theorem archiveFields_text (h : archiveFields crypto es = .ok fields) :
    ∀ f ∈ fields, ∃ v, f = .text v := by
  induction es generalizing fields with
  | nil =>
    cases h
    simp
  | cons e es ih =>
    obtain ⟨facts, raw, tail, _, _, htail, rfl⟩ := archiveFields_cons h
    simp only [List.mem_cons]
    rintro f (rfl | rfl | hf)
    · exact ⟨_, rfl⟩
    · exact ⟨_, rfl⟩
    · exact ih htail f hf

theorem encode_ne_nil (f : Field) : Field.encode f ≠ .ok [] := by
  cases f with
  | text value =>
    intro h
    obtain ⟨_, h⟩ := text_encode.mp h
    simp [prefixed, bigEndian] at h
  | u32 value | u64 value => simp [Field.encode, bigEndian]
  | digest value =>
    intro h
    obtain ⟨raw, _, h⟩ := digest_encode.mp h
    have hlength := congrArg List.length h
    simp at hlength

theorem archive_inj (he : canonicalArchive crypto es = .ok b)
    (hf : canonicalArchive crypto fs = .ok b) : es = fs := by
  simp only [canonicalArchive, bind_ok] at he hf
  obtain ⟨_, _, fields, hfields, he⟩ := he
  obtain ⟨_, _, fields', hfields', hf⟩ := hf
  obtain ⟨body, he, hf⟩ := frame_body he hf
  obtain ⟨head, tail, hhead, htail, rfl⟩ := encodeAll_cons.mp he
  obtain ⟨head', tail', hhead', htail', heq⟩ := encodeAll_cons.mp hf
  obtain ⟨_, rfl⟩ := field_selfDelimiting.peel (.u64 _ _) hhead hhead' heq
  have hsame : ∀ f ∈ fields, ∀ g ∈ fields', Field.SameKind f g := by
    intro f hf g hg
    obtain ⟨v, rfl⟩ := archiveFields_text hfields f hf
    obtain ⟨w, rfl⟩ := archiveFields_text hfields' g hg
    exact .text v w
  cases field_selfDelimiting.injAll hsame encode_ne_nil htail htail'
  exact archiveFields_inj hfields hfields'

theorem rosterBytes_ok {entries : List RosterEntry} (h : rosterBytes entries = .ok b) :
    ∃ one two, ordered entries = [one, two] ∧
      frame (str "trnm_match_roster_v1") (.u32 2 :: (one.fields ++ two.fields)) = .ok b := by
  unfold rosterBytes at h
  split at h
  · next one two hordered =>
    simp only [bind_ok] at h
    obtain ⟨_, _, _, _, _, _, _, _, h⟩ := h
    exact ⟨one, two, hordered, h⟩
  · cases h

theorem roster_inj {es fs : List RosterEntry} (he : rosterBytes es = .ok b)
    (hf : rosterBytes fs = .ok b) : ordered es = ordered fs := by
  obtain ⟨one, two, hes, he⟩ := rosterBytes_ok he
  obtain ⟨one', two', hfs, hf⟩ := rosterBytes_ok hf
  obtain ⟨body, he, hf⟩ := frame_body he hf
  have h := fields_inj (by simp) he hf
  rw [hes, hfs]
  obtain ⟨⟩ := one
  obtain ⟨⟩ := two
  obtain ⟨⟩ := one'
  obtain ⟨⟩ := two'
  simpa [and_assoc] using h

theorem facts_inj {f g : TerminalFacts} (hf : f.canonicalBytes = .ok b)
    (hg : g.canonicalBytes = .ok b) : f = g := by
  simp only [TerminalFacts.canonicalBytes, bind_ok] at hf hg
  obtain ⟨_, _, _, _, _, _, hf⟩ := hf
  obtain ⟨_, _, _, _, _, _, hg⟩ := hg
  obtain ⟨body, hf, hg⟩ := frame_body hf hg
  have h := fields_inj (by simp) hf hg
  obtain ⟨⟩ := f
  obtain ⟨⟩ := g
  simpa [and_assoc] using h

theorem completion_inj {c d : MatchCompletedV1} (hc : c.signingBytes crypto = .ok b)
    (hd : d.signingBytes crypto = .ok b) :
    { c with signature := [] } = { d with signature := [] } := by
  simp only [MatchCompletedV1.signingBytes, bind_ok, mapError_ok] at hc hd
  obtain ⟨_, _, _, _, _, _, _, _, _, _, _, _, facts, hfacts, hc⟩ := hc
  obtain ⟨_, _, _, _, _, _, _, _, _, _, _, _, facts', hfacts', hd⟩ := hd
  obtain ⟨body, hc, hd⟩ := frame_body hc hd
  have h := fields_inj (by simp) hc hd
  simp only [MatchCompletedV1.fields, List.cons.injEq, Field.text.injEq, Field.digest.injEq,
    Field.u64.injEq, i64_inj, and_true] at h
  obtain ⟨hschema, hcommitment, hmatch, hchallenge, rfl, h⟩ := h
  have hterminal := facts_inj hfacts hfacts'
  obtain ⟨⟩ := c
  obtain ⟨⟩ := d
  simp only [MatchCompletedV1.mk.injEq]
  tauto

theorem commitment_inj {r r' a a' : Digest} (h : commitmentBytes m r a = .ok b)
    (h' : commitmentBytes m' r' a' = .ok b) : m = m' ∧ r = r' ∧ a = a' := by
  simp only [commitmentBytes, bind_ok] at h h'
  obtain ⟨_, _, h⟩ := h
  obtain ⟨_, _, h'⟩ := h'
  obtain ⟨body, h, h'⟩ := frame_body h h'
  simpa using fields_inj (by simp) h h'

end

variable {r : Record} {b : GoString}

theorem encode_frame (h : r.encode crypto = .ok b) :
    ∃ fields, frame (str r.tag) fields = .ok b := by
  cases r with
  | authorizationClaim claim =>
    simp only [Record.encode, AuthorizationClaim.canonicalBytes, bind_ok] at h
    obtain ⟨_, _, h⟩ := h
    exact ⟨_, h⟩
  | authorizationSignature claim issuerKeyID =>
    simp only [Record.encode, authorizationSigningBytes, bind_ok] at h
    obtain ⟨_, _, _, _, h⟩ := h
    exact ⟨_, h⟩
  | command c =>
    simp only [Record.encode, CommandEnvelope.signingBytes, bind_ok] at h
    obtain ⟨_, _, h⟩ := h
    exact ⟨_, h⟩
  | commandFingerprint c =>
    simp only [Record.encode, fingerprintBytes, bind_ok] at h
    obtain ⟨_, _, h⟩ := h
    exact ⟨_, h⟩
  | eventFacts event =>
    simp only [Record.encode, MatchEvent.factsBytes, bind_ok] at h
    obtain ⟨_, _, h⟩ := h
    exact ⟨_, h⟩
  | eventID matchID sequence causationID =>
    simp only [Record.encode, eventIDBytes, bind_ok] at h
    obtain ⟨_, _, _, _, _, _, h⟩ := h
    exact ⟨_, h⟩
  | archive events =>
    simp only [Record.encode, canonicalArchive, bind_ok] at h
    obtain ⟨_, _, _, _, h⟩ := h
    exact ⟨_, h⟩
  | roster entries =>
    obtain ⟨_, _, _, h⟩ := rosterBytes_ok h
    exact ⟨_, h⟩
  | terminalFacts facts =>
    simp only [Record.encode, TerminalFacts.canonicalBytes, bind_ok] at h
    obtain ⟨_, _, _, _, _, _, h⟩ := h
    exact ⟨_, h⟩
  | completion c =>
    simp only [Record.encode, MatchCompletedV1.signingBytes, bind_ok] at h
    obtain ⟨_, _, _, _, _, _, _, _, _, _, _, _, _, _, h⟩ := h
    exact ⟨_, h⟩
  | commitment matchID eventRoot archiveHash =>
    simp only [Record.encode, commitmentBytes, bind_ok] at h
    obtain ⟨_, _, h⟩ := h
    exact ⟨_, h⟩

theorem encode_inj {s : Record} (hr : r.encode crypto = .ok b) (hs : s.encode crypto = .ok b) :
    r.framed = s.framed := by
  have htag : r.tag = s.tag := by
    obtain ⟨_, hr⟩ := encode_frame hr
    obtain ⟨_, hs⟩ := encode_frame hs
    exact frame_tag hr hs
  cases r <;> cases s <;> simp only [Record.tag, String.reduceEq] at htag
  case authorizationClaim.authorizationClaim c d =>
    cases claim_inj hr hs
    rfl
  case authorizationSignature.authorizationSignature c id d id' =>
    obtain ⟨rfl, rfl⟩ := authorizationSignature_inj hr hs
    rfl
  case command.command c d => exact congrArg Record.command (command_inj hr hs)
  case commandFingerprint.commandFingerprint c d =>
    cases fingerprint_inj hr hs
    rfl
  case eventFacts.eventFacts e f => exact congrArg Record.eventFacts (event_inj hr hs)
  case eventID.eventID m n c m' n' c' =>
    obtain ⟨rfl, rfl, rfl⟩ := eventID_inj hr hs
    rfl
  case archive.archive es fs =>
    cases archive_inj hr hs
    rfl
  case roster.roster es fs => exact congrArg Record.roster (roster_inj hr hs)
  case terminalFacts.terminalFacts f g =>
    cases facts_inj hr hs
    rfl
  case completion.completion c d => exact congrArg Record.completion (completion_inj hr hs)
  case commitment.commitment m r a m' r' a' =>
    obtain ⟨rfl, rfl, rfl⟩ := commitment_inj hr hs
    rfl

def Record.digest (crypto : Crypto) : Record → Option (Except String Digest)
  | .commandFingerprint c => some (Contract.commandFingerprint crypto c)
  | .eventFacts event => some (computeEventHash crypto event)
  | .eventID matchID sequence causationID =>
    some (canonicalEventID crypto matchID sequence causationID)
  | .archive events => some (archiveHash crypto events)
  | .roster entries => some (rosterRoot crypto entries)
  | .commitment matchID eventRoot archiveHash =>
    some (commitmentID crypto matchID eventRoot archiveHash)
  | _ => none

def Record.Accepts (crypto : Crypto) (key signature : GoString) : Record → Prop
  | .authorizationSignature claim issuerKeyID =>
    verifyAuthorizationSignature crypto ⟨claim, issuerKeyID, signature⟩
      (Finmap.singleton issuerKeyID key) = .ok ()
  | .command c => c.signature = signature ∧ verifyCommand crypto c key = .ok ()
  | .completion c => c.signature = signature ∧ verifyCompletion crypto c key = .ok ()
  | _ => False

def Record.Signs (crypto : Crypto) (privateKey signature : GoString) : Record → Prop
  | .authorizationSignature claim issuerKeyID =>
    signAuthorization crypto claim issuerKeyID privateKey = .ok ⟨claim, issuerKeyID, signature⟩
  | .command c => c.signature = [] ∧ ∃ unsigned,
    signCommand crypto unsigned privateKey = .ok { c with signature := signature }
  | .completion c => c.signature = [] ∧ ∃ unsigned,
    signCompletion crypto unsigned privateKey = .ok { c with signature := signature }
  | _ => False

theorem digest_encode_eq {d : Digest} (h : r.digest crypto = some (.ok d)) :
    ∃ b, r.encode crypto = .ok b ∧ d = newDigest crypto b := by
  cases r <;> simp only [Record.digest, Option.some.injEq, reduceCtorEq, commandFingerprint,
    computeEventHash, canonicalEventID, archiveHash, rosterRoot, commitmentID, bind_ok] at h
  all_goals
    obtain ⟨b, hb, h⟩ := h
    exact ⟨b, hb, (Except.ok.inj h).symm⟩

theorem accepts_verify {key signature : GoString} (h : r.Accepts crypto key signature) :
    ∃ b, r.encode crypto = .ok b ∧ crypto.verify key b signature = true := by
  cases r with
  | authorizationSignature claim issuerKeyID =>
    simp only [Record.Accepts, verifyAuthorizationSignature, bind_ok, fetch_ok, require_ok] at h
    obtain ⟨key', hkey, _, _, b, hb, hverify⟩ := h
    rw [Finmap.lookup_singleton_eq, Option.some.injEq] at hkey
    subst hkey
    exact ⟨b, hb, hverify⟩
  | command c =>
    obtain ⟨rfl, h⟩ := h
    simp only [verifyCommand, bind_ok, require_ok] at h
    obtain ⟨_, _, b, hb, hverify⟩ := h
    exact ⟨b, hb, hverify⟩
  | completion c =>
    obtain ⟨rfl, h⟩ := h
    simp only [verifyCompletion, bind_ok, require_ok] at h
    obtain ⟨_, _, b, hb, hverify⟩ := h
    exact ⟨b, hb, hverify⟩
  | _ => exact h.elim

theorem signs_message {privateKey signature : GoString} (h : r.Signs crypto privateKey signature) :
    ∃ b, r.encode crypto = .ok b ∧ signature = crypto.sign privateKey b := by
  cases r with
  | authorizationSignature claim issuerKeyID =>
    simp only [Record.Signs, signAuthorization, bind_ok] at h
    obtain ⟨_, _, b, hb, h⟩ := h
    cases h
    exact ⟨b, hb, rfl⟩
  | command c =>
    obtain ⟨hnone, unsigned, h⟩ := h
    simp only [signCommand, bind_ok] at h
    obtain ⟨_, _, b, hb, h⟩ := h
    have hsigned := Except.ok.inj h
    have hclear : { unsigned with payloadHash := newDigest crypto unsigned.payload, signature := [] }
        = c := by
      calc
        _ = { { c with signature := signature } with signature := [] } := by rw [← hsigned]
        _ = { c with signature := [] } := rfl
        _ = c := by rw [← hnone]
    rw [hclear] at hb
    exact ⟨b, hb, (congrArg CommandEnvelope.signature hsigned).symm⟩
  | completion c =>
    obtain ⟨hnone, unsigned, h⟩ := h
    simp only [signCompletion, bind_ok] at h
    obtain ⟨_, _, b, hb, h⟩ := h
    have hsigned := Except.ok.inj h
    have hclear : { unsigned with signature := [] } = c := by
      calc
        _ = { { c with signature := signature } with signature := [] } := by rw [← hsigned]
        _ = { c with signature := [] } := rfl
        _ = c := by rw [← hnone]
    rw [hclear] at hb
    exact ⟨b, hb, (congrArg MatchCompletedV1.signature hsigned).symm⟩
  | _ => exact h.elim

structure Unambiguous (crypto : Crypto) : Prop where
  frames : ∀ (r s : Record) b, r.encode crypto = .ok b → s.encode crypto = .ok b → r.framed = s.framed
  digests : ∀ (r s : Record) d, r.digest crypto = some (.ok d) → s.digest crypto = some (.ok d) →
    r.framed = s.framed ∨ ∃ a b, r.encode crypto = .ok a ∧ s.encode crypto = .ok b ∧
      a ≠ b ∧ crypto.sha256 a = crypto.sha256 b
  signatures : ∀ (r s : Record) key signature, r.Accepts crypto key signature →
    s.Accepts crypto key signature → r.framed = s.framed ∨ ∃ a b, r.encode crypto = .ok a ∧
      s.encode crypto = .ok b ∧ a ≠ b ∧ crypto.verify key a signature = true ∧
      crypto.verify key b signature = true
  forgeries : ∀ (r s : Record) privateKey key signature, r.Signs crypto privateKey signature →
    s.Accepts crypto key signature → r.framed = s.framed ∨ ∃ a b, r.encode crypto = .ok a ∧
      s.encode crypto = .ok b ∧ a ≠ b ∧ signature = crypto.sign privateKey a ∧
      crypto.verify key b signature = true

theorem frames_unambiguous (crypto : Crypto) : Unambiguous crypto := by
  constructor
  · intro r s b hr hs
    exact encode_inj hr hs
  · intro r s d hr hs
    obtain ⟨a, ha, rfl⟩ := digest_encode_eq hr
    obtain ⟨b, hb, heq⟩ := digest_encode_eq hs
    by_cases hab : a = b
    · exact .inl (encode_inj ha (hab ▸ hb))
    · exact .inr ⟨a, b, ha, hb, hab, newDigest_eq heq⟩
  · intro r s key signature hr hs
    obtain ⟨a, ha, hverify⟩ := accepts_verify hr
    obtain ⟨b, hb, hverify'⟩ := accepts_verify hs
    by_cases hab : a = b
    · exact .inl (encode_inj ha (hab ▸ hb))
    · exact .inr ⟨a, b, ha, hb, hab, hverify, hverify'⟩
  · intro r s privateKey key signature hr hs
    obtain ⟨a, ha, hsign⟩ := signs_message hr
    obtain ⟨b, hb, hverify⟩ := accepts_verify hs
    by_cases hab : a = b
    · exact .inl (encode_inj ha (hab ▸ hb))
    · exact .inr ⟨a, b, ha, hb, hab, hsign, hverify⟩

end Contract
