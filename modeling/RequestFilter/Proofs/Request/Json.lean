import RequestFilter.Proofs.Json.Keeps
import RequestFilter.Proofs.Json.Reads
import RequestFilter.Request.Json

/-!
The JSON form of a request loses nothing, as long as its sizes are finite and are read back from
their texts; and the sizes of a request that was read are finite.

Reading is lenient where writing has one form. Each lenient reader takes the form that is written
for the value it was written from: a status for the string it is, cookies for the bare array.
-/

set_option autoImplicit false

namespace RequestFilter

open Json (Fills Reads)

/-! ### Parts that may be null -/

private theorem reads_ofText? (levels : Nat) (known : Option String) :
    Reads (Json.optional Json.string) levels (Value.ofText? known) known := by
  cases known with
  | none => exact .optional_null _ levels
  | some s => exact (Reads.string levels s).optional nofun

private theorem reads_ofDouble? (levels : Nat) {known : Option Double}
    (writable : ∀ x ∈ known, (Json.Number.double x).IsWritable) :
    Reads (Json.optional Json.double) levels (Value.ofDouble? known) known := by
  cases known with
  | none => exact .optional_null _ levels
  | some x => exact (Reads.double levels (writable x rfl)).optional nofun

private theorem reads_ofPart? {α β : Type} {decoder : Json.Decoder β} {toJson : α → Json.Value}
    {g : α → β} {levels : Nat} (present : ∀ a, toJson a ≠ .null)
    (each : ∀ a, Reads decoder levels (toJson a) (g a)) (known : Option α) :
    Reads (Json.optional decoder) levels (Value.ofPart? toJson known) (known.map g) := by
  cases known with
  | none => exact .optional_null _ levels
  | some a => exact (each a).optional (present a)

/-! ### The parts of a request -/

private theorem UrlDetails.reads (levels : Nat) (d : UrlDetails) :
    Reads UrlDetails.shape.decode (levels + 1) d.toJson d := by
  have fills : Fills levels UrlDetails.shape.fields
      [("scheme", .string d.scheme), ("host", .string d.host)] UrlDetails.shape.empty d :=
    .defaulted _ _ (.orDefault "" (.string levels d.scheme) nofun) <|
    .defaulted _ _ (.orDefault "" (.string levels d.host) nofun) <|
    .nil _
  exact .shape (by decide) fills

private theorem Cause.reads (levels : Nat) (c : Cause) :
    Reads Cause.shape.decode (levels + 1) c.toJson c := by
  have fills : Fills levels Cause.shape.fields [("type", Value.ofText? c.kind)]
      Cause.shape.empty c :=
    .defaulted _ _ (reads_ofText? levels c.kind) <| .nil _
  exact .shape (by decide) fills

private theorem Header.reads (levels : Nat) (h : Header) :
    Reads Header.shape.decode (levels + 1) h.toJson h := by
  have fills : Fills levels Header.shape.fields
      [("name", .string h.name), ("value", .string h.value)] Header.shape.empty h :=
    .defaulted _ _ (.orDefault "" (.string levels h.name) nofun) <|
    .defaulted _ _ (.orDefault "" (.string levels h.value) nofun) <|
    .nil _
  exact .shape (by decide) fills

private theorem ResponseHeaders.reads (levels : Nat) (r : ResponseHeaders) :
    Reads ResponseHeaders.shape.decode (levels + 3) r.toJson r := by
  have fills : Fills (levels + 2) ResponseHeaders.shape.fields
      [("headers", .array (r.headers.map Header.toJson))] ResponseHeaders.shape.empty r :=
    .defaulted _ _ (.orDefault [] (.list fun h _ => Header.reads levels h) nofun) <| .nil _
  exact .shape (by decide) fills

private theorem cookie?_toJson (c : Cookie) : cookie? c.toJson = some c := by
  obtain ⟨name, value, domain⟩ := c
  cases domain <;> rfl

private theorem cookies?_toJson (cs : List Cookie) :
    cookies? (.array (cs.map Cookie.toJson)) = some cs := by
  induction cs with
  | nil => rfl
  | cons c cs ih =>
    simp only [cookies?, cookieList?, List.map_cons, List.mapM_cons, cookie?_toJson] at ih ⊢
    rw [ih]
    rfl

private theorem fits_cookies (levels : Nat) (cs : List Cookie) :
    Json.Value.Fits (levels + 2) (.array (cs.map Cookie.toJson)) := by
  refine .array fun v hv => ?_
  obtain ⟨c, -, rfl⟩ := List.mem_map.mp hv
  refine .object fun m hm => ?_
  obtain ⟨name, value, domain⟩ := c
  cases domain <;> simp at hm <;> rcases hm with rfl | rfl | rfl <;> exact .string levels _

namespace Request

structure HasFiniteSizes (r : Request) : Prop where
  content : ∀ x ∈ r.contentSize, x.isFinite = true
  transferred : ∀ x ∈ r.transferredSize, x.isFinite = true

/-- The sizes that are known are read from their texts as they are. -/
structure HasReadBackSizes (r : Request) : Prop where
  content : ∀ x ∈ r.contentSize, Json.IsReadBack x
  transferred : ∀ x ∈ r.transferredSize, Json.IsReadBack x

structure HasWritableSizes (r : Request) : Prop where
  finite : r.HasFiniteSizes
  readBack : r.HasReadBackSizes

theorem nodup_fields : (Request.shape.fields.map Json.Field.name).Nodup := by decide

private theorem reads_status (levels : Nat) (known : Option String) :
    Reads (Json.optional (Json.choice "Status" status?)) levels (Value.ofText? known) known := by
  cases known with
  | none => exact .optional_null _ levels
  | some s =>
    have string : Reads (Json.choice "Status" status?) levels (.string s) s :=
      .choice (.string levels s) rfl
    exact string.optional nofun

theorem reads (levels : Nat) {r : Request} (sizes : r.HasWritableSizes) :
    Reads Request.decode (levels + 4) r.toJson r := by
  have port : (r.remotePort.map UInt16.toNat).map Nat.toUInt16 = r.remotePort := by
    cases r.remotePort <;> simp
  obtain ⟨finite, readBack⟩ := sizes
  have fills : Fills (levels + 3) Request.shape.fields _ Request.shape.empty _ :=
    .defaulted _ _ (.string _ r.url) <|
    .defaulted _ _ (reads_ofText? _ r.method) <|
    .defaulted _ _ (reads_status _ r.status) <|
    .defaulted _ _ (reads_ofText? _ r.httpVersion) <|
    .defaulted _ _ (reads_ofPart? nofun (UrlDetails.reads (levels + 2)) r.urlDetails) <|
    .defaulted _ _ (reads_ofText? _ r.remoteAddress) <|
    .defaulted _ _ (reads_ofPart? nofun (fun p => .word16 _ p.toNat_lt) r.remotePort) <|
    .defaulted _ _ (reads_ofPart? nofun (Cause.reads (levels + 2)) r.cause) <|
    .defaulted _ _ (reads_ofText? _ r.mimeType) <|
    .defaulted _ _ (reads_ofDouble? _ fun x hx =>
      ⟨finite.content x hx, readBack.content x hx⟩) <|
    .defaulted _ _ (reads_ofDouble? _ fun x hx =>
      ⟨finite.transferred x hx, readBack.transferred x hx⟩) <|
    .defaulted _ _ (.orDefault false (.boolean _ r.fromCache) nofun) <|
    .defaulted _ _ (reads_ofPart? nofun (ResponseHeaders.reads levels) r.responseHeaders) <|
    .defaulted _ _ (reads_ofPart? nofun
      (fun cs => .choice (fits_cookies (levels + 1) cs) (cookies?_toJson cs)) r.responseCookies) <|
    .nil _
  have whole := Reads.shape nodup_fields fills
  -- the draft is the request, field by field
  simp only [port, Option.map_id'] at whole
  exact whole

/-! ### Requests that were read -/

private theorem hasFiniteSizes_empty : HasFiniteSizes {} := ⟨nofun, nofun⟩

private theorem keeps_hasFiniteSizes : ∀ f ∈ Request.shape.fields, f.Keeps HasFiniteSizes := by
  have other {α : Type} {decoder : Json.Decoder α} {set : Request → α → Request} (name : String)
      (untouched : ∀ r a, (set r a).contentSize = r.contentSize ∧
        (set r a).transferredSize = r.transferredSize) :
      (Json.Field.defaulted name decoder set).Keeps HasFiniteSizes :=
    Json.Field.keeps_defaulted (fun _ => True) name (fun _ _ _ _ => trivial) fun r a finite _ =>
      ⟨(untouched r a).1 ▸ finite.content, (untouched r a).2 ▸ finite.transferred⟩
  have size {set : Request → Option Double → Request} (name : String)
      (sets : ∀ r known, HasFiniteSizes r → (∀ x ∈ known, x.isFinite = true) →
        HasFiniteSizes (set r known)) :
      (Json.Field.defaulted name (Json.optional Json.double) set).Keeps HasFiniteSizes :=
    Json.Field.keeps_defaulted _ name
      (fun _ _ _ h x present => Json.isFinite_of_double (Json.decoded_of_optional h x present)) sets
  have untouched {r : Request} : r.contentSize = r.contentSize ∧
      r.transferredSize = r.transferredSize := ⟨rfl, rfl⟩
  simp only [Request.shape, List.forall_mem_cons, List.not_mem_nil, false_implies, implies_true,
    and_true]
  exact ⟨other _ fun _ _ => untouched, other _ fun _ _ => untouched, other _ fun _ _ => untouched,
    other _ fun _ _ => untouched, other _ fun _ _ => untouched, other _ fun _ _ => untouched,
    other _ fun _ _ => untouched, other _ fun _ _ => untouched, other _ fun _ _ => untouched,
    size _ fun _ _ finite known => ⟨known, finite.transferred⟩,
    size _ fun _ _ finite known => ⟨finite.content, known⟩,
    other _ fun _ _ => untouched, other _ fun _ _ => untouched, other _ fun _ _ => untouched⟩

theorem hasFiniteSizes_of_decode {levels : Nat} {node : Json.Node} {r : Request}
    (h : Request.decode levels node = .ok r) : r.HasFiniteSizes :=
  Json.Shape.decode_keeps hasFiniteSizes_empty keeps_hasFiniteSizes h

end Request
end RequestFilter
