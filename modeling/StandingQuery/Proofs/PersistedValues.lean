import StandingQuery.Delivery.Channel
import StandingQuery.Engine.Record
import StandingQuery.Proofs.DecodedShapes
import StandingQuery.Proofs.RecordedInstants
import StandingQuery.Proofs.TakenText
import StandingQuery.Proofs.WrittenIdentifiers
import StandingQuery.Registry.Marker
import StandingQuery.Schedule

/-!
# Persisted values

What is kept between runs is read back from the value that it is written as: stored and checked schedules, markers, preferences,
destinations, the fields that channels need, results and records. Preferences are also read back from their text, whatever characters
are in it. Main statement: `decode_encode_persisted`.
-/

namespace StandingQuery

open Json

/-! ## From values -/

@[simp] theorem TimeUnit.decode_encode (u : TimeUnit) : decode u.encode = .ok u := by
  cases u <;> rfl

@[simp] theorem FieldKind.decode_encode (k : FieldKind) : decode k.encode = .ok k := by
  cases k <;> rfl

@[simp] theorem Uuid.decode_encode (u : Uuid) : Uuid.decode u.encode = .ok u := by
  unfold Uuid.encode Uuid.decode
  simp only [parse_text]

/-- Whether the amount of a stored schedule has at most 64 bits. -/
def ScheduleRecord.AmountFits (r : ScheduleRecord) : Prop :=
  ∀ i ∈ r.amount, (-0x8000000000000000 : Int) ≤ i ∧ i ≤ 0x7FFFFFFFFFFFFFFF

theorem ScheduleRecord.decode_encode {r : ScheduleRecord} (h : r.AmountFits) : decode r.encode = .ok r := by
  have hamount : optional signed64 (.ofOption .ofInt r.amount) = .ok r.amount :=
    optional_ofOption (fun _ => nofun) fun i hi => integer_ofInt "i64" (h i hi)
  unfold decode encode
  simp [hamount]

theorem Schedule.decode_encode {s : Schedule} (hamount : s.amount ≤ 0xFFFFFFFF) (hstart : s.start.Recordable)
    (hfinish : s.finish.Recordable) : decode s.encode = .ok s := by
  have hread : unsigned 32 (.ofNat s.amount) = .ok s.amount := unsigned_ofNat (Nat.lt_of_le_of_lt hamount (by decide))
  unfold decode encode
  simp [Instant.decode_encode hstart, Instant.decode_encode hfinish, hread]

theorem Marker.decode_encode {m : Marker} (h : m.activatedAt.Recordable) : decode m.encode = .ok m := by
  unfold decode encode
  simp [Instant.decode_encode h]

theorem MethodField.decode_encode (f : MethodField) : decode f.encode = .ok f := by
  unfold decode encode
  simp

theorem DeliveryMethod.decode_encode (m : DeliveryMethod) : decode m.encode = .ok m := by
  have hfields : list MethodField.decode (.arr (m.fields.map MethodField.encode)) = .ok m.fields :=
    list_map fun f _ => f.decode_encode
  unfold decode encode
  simp [hfields]

theorem UserPreferences.decode_encode (p : UserPreferences) : decode p.encode = .ok p := by
  have hmethods : list DeliveryMethod.decode (.arr (p.methods.map DeliveryMethod.encode)) = .ok p.methods :=
    list_map fun m _ => m.decode_encode
  unfold decode encode
  simp [hmethods]

theorem Destination.decode_encode (d : Destination) : decode d.encode = .ok d := by
  have hparameters : mapping text (.obj (d.parameters.map fun p => (p.1, .str p.2))) = .ok d.parameters :=
    mapping_map fun _ _ => rfl
  unfold decode encode
  simp [hparameters]

theorem RequiredField.decode_encode (f : RequiredField) : decode f.encode = .ok f := by
  unfold decode encode
  simp

theorem ResultItem.decode_encode (r : ResultItem) : decode r.encode = .ok r := by
  unfold decode encode
  simp

theorem QueryResults.decode_encode {r : QueryResults} (h : r.totalHits ≤ 0xFFFFFFFFFFFFFFFF) : decode r.encode = .ok r := by
  have hhits : list ResultItem.decode (.arr (r.hits.map ResultItem.encode)) = .ok r.hits :=
    list_map fun item _ => item.decode_encode
  have htotal : unsigned 64 (.ofNat r.totalHits) = .ok r.totalHits := unsigned_ofNat (Nat.lt_of_le_of_lt h (by decide))
  unfold decode encode
  simp [hhits, htotal]

theorem CatalogRecord.decode_encode (r : CatalogRecord) : decode r.encode = .ok r := by
  unfold decode encode
  simp

/-! ## From text -/

/-- A field of a delivery method is read from its text. -/
theorem MethodField.reads (f : MethodField) : Reads reader encode f where
  opens := opens_obj _
  takes := by
    have hname : Takes (memberReader ⟨none, none⟩ "name") (':' :: write (.str f.name)) ⟨some f.name, none⟩ :=
      (fieldReader_takes "name" (textReader_takes f.name)).map fun name => Gathered.mk name none
    have hvalue : Takes (memberReader ⟨some f.name, none⟩ "value") (':' :: write (.str f.value)) ⟨some f.name, some f.value⟩ :=
      (fieldReader_takes "value" (textReader_takes f.value)).map fun value => Gathered.mk (some f.name) value
    exact recordReader_takes "MethodField" (.next hname (.next hvalue (.done _)))

/-- So is a delivery method. -/
theorem DeliveryMethod.reads (m : DeliveryMethod) : Reads reader encode m where
  opens := opens_obj _
  takes := by
    have htext (o : Option String) : Takes (optionalReader textReader) (write (.ofOption .str o)) o :=
      optionalReader_takes fun t _ => ⟨opens_str t, textReader_takes t⟩
    have hid : Takes (memberReader ⟨none, none, none⟩ "deliveryId") (':' :: write (.ofOption .str m.id)) ⟨some m.id, none, none⟩ :=
      (fieldReader_takes "deliveryId" (htext m.id)).map fun id => Gathered.mk id none none
    have hkind : Takes (memberReader ⟨some m.id, none, none⟩ "deliveryType") (':' :: write (.ofOption .str m.kind))
        ⟨some m.id, some m.kind, none⟩ :=
      (fieldReader_takes "deliveryType" (htext m.kind)).map fun kind => Gathered.mk (some m.id) kind none
    have hfields : Takes (memberReader ⟨some m.id, some m.kind, none⟩ "fields")
        (':' :: write (.arr (m.fields.map MethodField.encode))) ⟨some m.id, some m.kind, some m.fields⟩ :=
      (fieldReader_takes "fields" (listReader_takes fun f _ => MethodField.reads f)).map fun fields =>
        Gathered.mk (some m.id) (some m.kind) fields
    exact recordReader_takes "DeliveryMethod" (.next hid (.next hkind (.next hfields (.done _))))

/-- Preferences are read from their text. -/
theorem UserPreferences.ofText_toText (p : UserPreferences) : ofText p.toText = .ok p := by
  have hmethods : Takes (memberReader none "deliveryMethods") (':' :: write (.arr (p.methods.map DeliveryMethod.encode)))
      (some p.methods) :=
    fieldReader_takes "deliveryMethods" (listReader_takes fun m _ => DeliveryMethod.reads m)
  have htakes : Takes reader (write p.encode) p := recordReader_takes "UserPreferences" (.next hmethods (.done _))
  unfold ofText toText
  rw [readAll_compact htakes]

/-- Every value that is persisted is read back from the value that it is written as, for all instants that can be read at all, and
preferences are also read back from their text. -/
theorem decode_encode_persisted :
    (∀ r : ScheduleRecord, r.AmountFits → ScheduleRecord.decode r.encode = .ok r) ∧
    (∀ s : Schedule, s.amount ≤ 0xFFFFFFFF → s.start.Parsed → s.finish.Parsed → Schedule.decode s.encode = .ok s) ∧
    (∀ m : Marker, m.activatedAt.Parsed → Marker.decode m.encode = .ok m) ∧
    (∀ f : MethodField, MethodField.decode f.encode = .ok f) ∧
    (∀ m : DeliveryMethod, DeliveryMethod.decode m.encode = .ok m) ∧
    (∀ p : UserPreferences, UserPreferences.decode p.encode = .ok p ∧ UserPreferences.ofText p.toText = .ok p) ∧
    (∀ d : Destination, Destination.decode d.encode = .ok d) ∧
    (∀ f : RequiredField, RequiredField.decode f.encode = .ok f) ∧
    (∀ r : ResultItem, ResultItem.decode r.encode = .ok r) ∧
    (∀ r : QueryResults, r.totalHits ≤ 0xFFFFFFFFFFFFFFFF → QueryResults.decode r.encode = .ok r) ∧
    ∀ r : CatalogRecord, CatalogRecord.decode r.encode = .ok r := by
  refine ⟨?stored, ?checked, ?marker, MethodField.decode_encode, DeliveryMethod.decode_encode, ?preferences, Destination.decode_encode,
    RequiredField.decode_encode, ResultItem.decode_encode, ?results, CatalogRecord.decode_encode⟩
  case stored =>
    intro r hamount
    exact ScheduleRecord.decode_encode hamount
  case checked =>
    intro s hamount hstart hfinish
    exact Schedule.decode_encode hamount (Instant.parsed_iff.1 hstart) (Instant.parsed_iff.1 hfinish)
  case marker =>
    intro m hactivated
    exact Marker.decode_encode (Instant.parsed_iff.1 hactivated)
  case preferences =>
    intro p
    exact ⟨p.decode_encode, p.ofText_toText⟩
  case results =>
    intro r htotal
    exact QueryResults.decode_encode htotal

/-- The largest amounts, the first second of the year before the year 0, a leap second, a year of five digits, and preferences with
quotes and controls in them. -/
theorem decode_encode_persisted_extremes :
    let r : ScheduleRecord := ⟨true, none, some (-0x8000000000000000), some "hours", none, none, some []⟩
    let s : Schedule := ⟨"u", 0xFFFFFFFF, .weeks, ⟨-62198755200, 1⟩, ⟨1483228799, 1500000000⟩, ["d", "d"]⟩
    let m : Marker := ⟨Uuid.ofNat 7, ⟨253402300800, 0⟩⟩
    let p : UserPreferences := ⟨[⟨none, some "\"\\\u0001\n", [⟨"\u001f", "é"⟩]⟩]⟩
    let q : QueryResults := ⟨[⟨"h", [("title", .null)]⟩], 0xFFFFFFFFFFFFFFFF⟩
    r.AmountFits ∧ ScheduleRecord.decode r.encode = .ok r ∧
      s.start.Parsed ∧ s.finish.Parsed ∧ Schedule.decode s.encode = .ok s ∧
      m.activatedAt.Parsed ∧ Marker.decode m.encode = .ok m ∧
      UserPreferences.ofText p.toText = .ok p ∧ QueryResults.decode q.encode = .ok q := by
  intro r s m p q
  have hamount : r.AmountFits := by
    rintro i ⟨⟩
    decide
  have hstart : s.start.Parsed := Instant.parsed_iff.2 (by decide +kernel)
  have hfinish : s.finish.Parsed := Instant.parsed_iff.2 (by decide +kernel)
  have hactivated : m.activatedAt.Parsed := Instant.parsed_iff.2 (by decide +kernel)
  obtain ⟨hstored, hchecked, hmarker, -, -, hpreferences, -, -, -, hresults, -⟩ := decode_encode_persisted
  exact ⟨hamount, hstored r hamount, hstart, hfinish, hchecked s (by decide) hstart hfinish, hactivated, hmarker m hactivated,
    (hpreferences p).2, hresults q (by decide)⟩

end StandingQuery
