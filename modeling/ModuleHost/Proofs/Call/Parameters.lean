import ModuleHost.Call.Parameters
import ModuleHost.Proofs.Json.Record

/-!
# Call parameters as text

* `Particle.fields`, `Tetraplet.fields`, `CallParameters.fields` — the members as fields;
* `Particle.format`, `Tetraplet.format` — the JSON that stands for a particle, for a tetraplet;
* `CallParameters.stands_toJson` — the text of parameters is one of the texts for them;
* **`CallParameters.parse_described`**: the text of parameters is read back, also without members
  that have their defaults, at any level.
-/

namespace ModuleHost

open Json (Describes Format Lawful RecordField)

/-! ## Particles -/

namespace Particle

/-- The fields of a particle. -/
def fields : List (RecordField Particle) :=
  [⟨"id", false, .string, Particle.id, fun p s => { p with id := s }, fun _ _ => rfl⟩,
   ⟨"init_peer_id", false, .string, Particle.initPeerId, fun p s => { p with initPeerId := s },
     fun _ _ => rfl⟩,
   ⟨"timestamp", false, .natural 0x10000000000000000, fun p => p.timestamp.toNat,
     fun p n => { p with timestamp := UInt64.ofNat n }, by simp⟩,
   ⟨"ttl", false, .natural 0x100000000, fun p => p.ttl.toNat,
     fun p n => { p with ttl := UInt32.ofNat n }, by simp⟩,
   ⟨"script", false, .string, Particle.script, fun p s => { p with script := s }, fun _ _ => rfl⟩,
   ⟨"signature", false, .list (.natural 0x100), fun p => p.signature.map UInt8.toNat,
     fun p ns => { p with signature := ns.map UInt8.ofNat }, by simp⟩,
   ⟨"token", false, .string, Particle.token, fun p s => { p with token := s }, fun _ _ => rfl⟩]

theorem lawful_fields : Lawful fields where
  distinct := by decide
  apart := by simp [fields, RecordField.Apart]
  ext a b h := by
    simp only [fields, List.forall_mem_cons] at h
    obtain ⟨hid, hpeer, htimestamp, httl, hscript, hsignature, htoken, -⟩ := h
    have hbytes : a.signature = b.signature :=
      List.map_injective_iff.2 (fun _ _ => UInt8.toNat_inj.1) hsignature
    cases a
    cases b
    simp_all [UInt64.toNat_inj, UInt32.toNat_inj]

/-- The format of particles. -/
def format : Format Particle := .record fields lawful_fields {}

theorem stands_bytes (bs : List UInt8) :
    (Format.natural 0x100).list.Stands (.array (bs.map fun b => .nat b.toUInt64))
      (bs.map UInt8.toNat) :=
  ⟨_, rfl, List.forall₂_map_left_iff.2 (List.forall₂_map_right_iff.2
    (List.forall₂_same.2 fun b _ => ⟨b.toUInt64, rfl, by simp, b.toNat_lt⟩))⟩

theorem stands_toJson (p : Particle) : format.Stands p.toJson p :=
  ⟨_, rfl, .of_forall₂ lawful_fields (.cons ⟨rfl, rfl⟩ (.cons ⟨rfl, rfl⟩
    (.cons ⟨rfl, p.timestamp, rfl, rfl, p.timestamp.toNat_lt⟩
    (.cons ⟨rfl, p.ttl.toUInt64, rfl, by simp, p.ttl.toNat_lt⟩ (.cons ⟨rfl, rfl⟩
    (.cons ⟨rfl, stands_bytes p.signature⟩ (.cons ⟨rfl, rfl⟩ .nil)))))))⟩

end Particle

/-! ## Tetraplets -/

namespace Tetraplet

/-- The fields of a tetraplet. -/
def fields : List (RecordField Tetraplet) :=
  [⟨"peer_pk", false, .string, Tetraplet.peerPk, fun t s => { t with peerPk := s },
     fun _ _ => rfl⟩,
   ⟨"service_id", false, .string, Tetraplet.serviceId, fun t s => { t with serviceId := s },
     fun _ _ => rfl⟩,
   ⟨"function_name", false, .string, Tetraplet.functionName,
     fun t s => { t with functionName := s }, fun _ _ => rfl⟩,
   ⟨"lens", false, .string, Tetraplet.lens, fun t s => { t with lens := s }, fun _ _ => rfl⟩]

theorem lawful_fields : Lawful fields where
  distinct := by decide
  apart := by simp [fields, RecordField.Apart]
  ext a b h := by
    simp only [fields, List.forall_mem_cons] at h
    cases a
    cases b
    simp_all

/-- The format of tetraplets. -/
def format : Format Tetraplet := .record fields lawful_fields {}

theorem stands_toJson (t : Tetraplet) : format.Stands t.toJson t :=
  ⟨_, rfl, .of_forall₂ lawful_fields (.cons ⟨rfl, rfl⟩ (.cons ⟨rfl, rfl⟩ (.cons ⟨rfl, rfl⟩
    (.cons ⟨rfl, rfl⟩ .nil))))⟩

end Tetraplet

/-! ## Call parameters -/

namespace CallParameters

/-- The fields of call parameters. -/
def fields : List (RecordField CallParameters) :=
  [⟨"particle", false, Particle.format, CallParameters.particle,
     fun p x => { p with particle := x }, fun _ _ => rfl⟩,
   ⟨"service_id", false, .string, CallParameters.serviceId, fun p s => { p with serviceId := s },
     fun _ _ => rfl⟩,
   ⟨"service_creator_peer_id", false, .string, CallParameters.serviceCreatorPeerId,
     fun p s => { p with serviceCreatorPeerId := s }, fun _ _ => rfl⟩,
   ⟨"host_id", false, .string, CallParameters.hostId, fun p s => { p with hostId := s },
     fun _ _ => rfl⟩,
   ⟨"worker_id", false, .string, CallParameters.workerId, fun p s => { p with workerId := s },
     fun _ _ => rfl⟩,
   ⟨"tetraplets", false, .list (.list Tetraplet.format), CallParameters.tetraplets,
     fun p ts => { p with tetraplets := ts }, fun _ _ => rfl⟩]

theorem lawful_fields : Lawful fields where
  distinct := by decide
  apart := by simp [fields, RecordField.Apart]
  ext a b h := by
    simp only [fields, List.forall_mem_cons] at h
    cases a
    cases b
    simp_all

/-- The format of call parameters. -/
def format : Format CallParameters := .record fields lawful_fields {}

theorem stands_toJson (p : CallParameters) : format.Stands p.toJson p :=
  ⟨_, rfl, .of_forall₂ lawful_fields (.cons ⟨rfl, p.particle.stands_toJson⟩ (.cons ⟨rfl, rfl⟩
    (.cons ⟨rfl, rfl⟩ (.cons ⟨rfl, rfl⟩ (.cons ⟨rfl, rfl⟩
    (.cons ⟨rfl, Format.stands_list (Format.stands_list Tetraplet.stands_toJson) p.tetraplets⟩
    .nil))))))⟩

theorem parse_of_stands {p : CallParameters} {j : Json} (h : format.Stands j p) :
    parse (Text.ofString j.compact) = .ok p := format.whole_compact h

/-- The text of parameters is not that of an object without members. -/
theorem text_ne (p : CallParameters) : p.text ≠ "{}" := by
  intro h
  have hchars := congrArg String.toList h
  rw [text, Json.compact, String.toList_ofList] at hchars
  cases hchars

/-- **Call parameters are read back from their text**, which is never that of an object without
members, and from every text that leaves out members that have their defaults, at any level. -/
theorem parse_described :
    (∀ p : CallParameters, parse (Text.ofString p.text) = .ok p ∧ p.text ≠ "{}") ∧
    ∀ (p : CallParameters) (es : List (String × Json)), Describes fields {} p es →
      parse (Text.ofString (Json.fields es).compact) = .ok p :=
  ⟨fun p => ⟨parse_of_stands p.stands_toJson, p.text_ne⟩,
    fun _ es h => parse_of_stands ⟨es, rfl, h⟩⟩

/-- Parameters most of which have their defaults. -/
def sparse : CallParameters :=
  { particle := { id := "p\"", timestamp := 0xFFFFFFFFFFFFFFFF }
    hostId := "h"
    tetraplets := [[{ lens := "$.x" }, {}], []] }

/-- Their particle without defaults. -/
def sparseParticle : Json :=
  .fields [("id", .string "p\""), ("timestamp", .nat 0xFFFFFFFFFFFFFFFF)]

/-- Their tetraplets without defaults. -/
def sparseTetraplets : Json :=
  .array [.array [.fields [("lens", .string "$.x")], .fields []], .array []]

theorem stands_sparseParticle : Particle.format.Stands sparseParticle sparse.particle := by
  obtain ⟨es, hes, h⟩ := sparse.particle.stands_toJson
  cases hes
  exact ⟨_, rfl,
    h.filter (fun k => k = "id" || k = "timestamp") (by simp [Particle.fields, sparse])⟩

theorem stands_sparseTetraplets :
    (Format.list (.list Tetraplet.format)).Stands sparseTetraplets sparse.tetraplets := by
  have hlens : Tetraplet.format.Stands (.fields [("lens", .string "$.x")]) { lens := "$.x" } := by
    obtain ⟨es, hes, h⟩ := Tetraplet.stands_toJson { lens := "$.x" }
    cases hes
    exact ⟨_, rfl, h.filter (fun k => k = "lens") (by simp [Tetraplet.fields])⟩
  have hnone : Tetraplet.format.Stands (.fields []) {} :=
    ⟨_, rfl, by simp, by simp, by simp [Tetraplet.fields]⟩
  exact ⟨_, rfl, .cons ⟨_, rfl, .cons hlens (.cons hnone .nil)⟩ (.cons ⟨_, rfl, .nil⟩ .nil)⟩

theorem parse_described_sparse :
    let es := [("particle", sparseParticle), ("host_id", .string "h"),
      ("tetraplets", sparseTetraplets)]
    Describes fields {} sparse es ∧
      parse (Text.ofString (Json.fields es).compact) = .ok sparse ∧
      parse (Text.ofString sparse.text) = .ok sparse := by
  intro es
  have hall : Describes fields {} sparse
      [("particle", sparseParticle), ("service_id", .string ""),
        ("service_creator_peer_id", .string ""), ("host_id", .string "h"),
        ("worker_id", .string ""), ("tetraplets", sparseTetraplets)] :=
    .of_forall₂ lawful_fields (.cons ⟨rfl, stands_sparseParticle⟩ (.cons ⟨rfl, rfl⟩
      (.cons ⟨rfl, rfl⟩ (.cons ⟨rfl, rfl⟩ (.cons ⟨rfl, rfl⟩
      (.cons ⟨rfl, stands_sparseTetraplets⟩ .nil))))))
  have h : Describes fields {} sparse es :=
    hall.filter (fun k => k = "particle" || k = "host_id" || k = "tetraplets")
      (by simp [fields, sparse])
  exact ⟨h, parse_described.2 sparse es h, (parse_described.1 sparse).1⟩

end CallParameters

end ModuleHost
