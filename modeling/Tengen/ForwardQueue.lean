import Tengen.Router
import Tengen.Forwarder
/-!
# What the forwarding queues carry

The DLQ forwarder reads what `Router._publish_to_dlq` wrote, the enriched forwarder reads `EnrichedAlert`s, and both
read through the one consumer that decodes an `Alert`.  Neither message has an alert's required fields at its top
level, so the consumer discards every one of them before a callback is called.
-/
namespace Tengen

variable (pd : DatetimeField) (fr : Fresh)

/-- The consumer hands its callback an alert with that content, and does not discard the message. -/
def Readable (body : ByteArray) (content : Alert → Prop) : Prop :=
  (∃ alert ∈ (readMessage pd fr body).invoked, content alert) ∧
    (readMessage pd fr body).settled ≠ some (.nack false)

/-- **A JSON object without a required field of an alert is discarded unread.** -/
theorem readMessage_of_missing {text : String} {l : List (String × Json)} (h : Json.loads text = some (.obj l))
    (hl : l.lookup "source" = none ∨ l.lookup "raw_payload" = none) :
    readMessage pd fr (encode text) = ⟨[], some (.nack false)⟩ := by
  have hd : Alert.modelValidateBytes pd fr (encode text) = none := by
    rw [Alert.modelValidateBytes_encode, Alert.modelValidateJson, h, Option.bind_some,
      Alert.validate_eq_none_of_missing pd fr l hl]
  rw [readMessage, delivered_of_not_decode pd fr hd]

theorem not_readable_of_discarded {body : ByteArray} (h : readMessage pd fr body = ⟨[], some (.nack false)⟩)
    (content : Alert → Prop) : ¬ Readable pd fr body content := by
  rw [Readable, h]
  rintro ⟨⟨alert, ha, -⟩, -⟩
  cases ha

theorem readMessage_dlqBody (env : Env) (alert : Alert) (reason detail : String) :
    readMessage pd fr (Router.dlqBody pd env alert reason detail) = ⟨[], some (.nack false)⟩ :=
  readMessage_of_missing pd fr (Router.loads_dlqMessage pd env alert reason detail) (Or.inl rfl)

theorem loads_enriched (e : EnrichedAlert) : Json.loads (e.modelDumpJson pd) = some (e.toJson pd) :=
  Json.loads_dumpsIn _ _ (e.wf_toJson pd)

theorem readMessage_enriched (e : EnrichedAlert) :
    readMessage pd fr (encode (e.modelDumpJson pd)) = ⟨[], some (.nack false)⟩ :=
  readMessage_of_missing pd fr (loads_enriched pd e) (Or.inl rfl)

/-- **Every message of either forwarding queue is discarded unread**: no callback sees an alert of whatever content. -/
theorem forwardQueues_unreadable (env : Env) (content : Alert → Prop) :
    (∀ alert reason detail, ¬ Readable pd fr (Router.dlqBody pd env alert reason detail) content ∧
      readMessage pd fr (Router.dlqBody pd env alert reason detail) = ⟨[], some (.nack false)⟩) ∧
    ∀ e : EnrichedAlert, ¬ Readable pd fr (encode (e.modelDumpJson pd)) content ∧
      readMessage pd fr (encode (e.modelDumpJson pd)) = ⟨[], some (.nack false)⟩ := by
  constructor
  · intro alert reason detail
    have h := readMessage_dlqBody pd fr env alert reason detail
    exact ⟨not_readable_of_discarded pd fr h content, h⟩
  · intro e
    have h := readMessage_enriched pd fr e
    exact ⟨not_readable_of_discarded pd fr h content, h⟩

/-- The least alert, dead-lettered for want of a route, is discarded. -/
theorem dlqMessage_discarded :
    ¬ Readable .iso .zero (Router.dlqBody .iso (.raising fun _ => none) .bare "no_route_matched" "")
      (fun alert => alert = Alert.bare.finite) :=
  not_readable_of_discarded .iso .zero
    (readMessage_dlqBody .iso .zero (.raising fun _ => none) .bare "no_route_matched" "") _

end Tengen
