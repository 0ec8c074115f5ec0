import Mathlib.Data.List.Basic
import Provision.Manifest.Installer
import Provision.Proofs.Json.Compact

/-!
# Digests of installers

The digest of an installer is taken of the bytes of its structured value.  These bytes tell
installers apart, whatever texts their settings have, so two installers share a digest only where
the hash function gives two different messages the same first bytes.
-/

namespace Provision

/-! ## Structured values of installers -/

theorem Compression.name_injective : Function.Injective Compression.name := by
  intro c d
  cases c <;> cases d <;> decide

namespace Json

theorem str_injective : Function.Injective Json.str := by
  intro s t h
  exact Json.str.inj h

theorem strings_injective : Function.Injective strings := by
  intro texts others h
  exact List.map_injective_iff.mpr str_injective (Json.arr.inj h)

theorem ofOption_injective {α : Type} {write : α → Json} (hinjective : Function.Injective write)
    (hnull : ∀ a, write a ≠ .null) : Function.Injective (ofOption write) := by
  intro first second h
  cases first with
  | none =>
      cases second with
      | none => rfl
      | some b => exact absurd h.symm (hnull b)
  | some a =>
      cases second with
      | none => exact absurd h (hnull a)
      | some b => rw [hinjective h]

theorem ofOption_str_injective : Function.Injective (ofOption Json.str) :=
  ofOption_injective str_injective (fun _ => Json.noConfusion)

end Json

namespace Dict

theorem toJson_injective : Function.Injective Dict.toJson := by
  intro d e h
  have hwrite : Function.Injective
      (fun entry : String × String => (entry.1, Json.str entry.2)) := by
    intro entry other heq
    obtain ⟨hkey, hvalue⟩ := Prod.mk.inj heq
    exact Prod.ext hkey (Json.str.inj hvalue)
  exact Dict.ext (List.map_injective_iff.mpr hwrite (Json.obj.inj h))

theorem isTextual_toJson (d : Dict String) : d.toJson.IsTextual := by
  refine .obj ?_
  rw [List.forall_mem_map]
  exact fun entry _ => .str entry.2

end Dict

namespace Archive

theorem toJson_injective : Function.Injective Archive.toJson := by
  intro a b h
  cases a with
  | zip path =>
      cases b with
      | zip other => simpa [toJson] using h
      | tar compression other => simp [toJson] at h
  | tar compression path =>
      cases b with
      | zip other => simp [toJson] at h
      | tar second other =>
          simp only [toJson, Json.obj.injEq, List.cons.injEq, Prod.mk.injEq, Json.str.injEq,
            true_and, and_true] at h
          rw [Compression.name_injective h.1, h.2]

theorem isTextual_toJson (a : Archive) : a.toJson.IsTextual := by
  cases a with
  | zip path => exact .obj (by simp [Json.IsTextual.str])
  | tar compression path => exact .obj (by simp [Json.IsTextual.str])

end Archive

namespace Installer

theorem fetchFields_injective : Function.Injective fetchFields := by
  intro source other h
  have harchive : Function.Injective (Json.ofOption Archive.toJson) :=
    Json.ofOption_injective Archive.toJson_injective (by rintro (_ | _) <;> exact Json.noConfusion)
  simp only [fetchFields, List.cons.injEq, Prod.mk.injEq, Json.str.injEq, true_and, and_true] at h
  obtain ⟨hurl, hpacked⟩ := h
  cases source
  cases other
  rw [Fetch.mk.injEq]
  exact ⟨hurl, harchive hpacked⟩

theorem eq_of_settings_pythonApp {app other : PythonApp}
    (h : (pythonApp app).settings = (pythonApp other).settings) : app = other := by
  simp only [settings, List.cons.injEq, Prod.mk.injEq, Json.str.injEq, true_and, and_true] at h
  obtain ⟨hpackage, hversion, happ⟩ := h
  cases app
  cases other
  rw [PythonApp.mk.injEq]
  exact ⟨hpackage, Json.ofOption_str_injective hversion, happ⟩

theorem eq_of_settings_goModule {m other : GoModule}
    (h : (goModule m).settings = (goModule other).settings) : m = other := by
  simp only [settings, List.cons.injEq, Prod.mk.injEq, Json.str.injEq, true_and, and_true] at h
  obtain ⟨hmodule, hsub, hversion, henv, hflags, hbinary⟩ := h
  cases m
  cases other
  rw [GoModule.mk.injEq]
  exact ⟨hmodule, Json.ofOption_str_injective hsub, hversion, Dict.toJson_injective henv,
    Json.strings_injective hflags, hbinary⟩

/-- Installers of one kind with the same settings are the same. -/
theorem eq_of_settings {a b : Installer} (hkind : a.kind = b.kind)
    (hsettings : a.settings = b.settings) : a = b := by
  cases a with
  | provided default =>
      cases b with
      | provided other => simpa [settings] using hsettings
      | _ => simp [kind] at hkind
  | http source =>
      cases b with
      | http other => rw [fetchFields_injective hsettings]
      | _ => simp [kind] at hkind
  | objectStore source =>
      cases b with
      | objectStore other => rw [fetchFields_injective hsettings]
      | _ => simp [kind] at hkind
  | pythonApp app =>
      cases b with
      | pythonApp other => rw [eq_of_settings_pythonApp hsettings]
      | _ => simp [kind] at hkind
  | goModule m =>
      cases b with
      | goModule other => rw [eq_of_settings_goModule hsettings]
      | _ => simp [kind] at hkind
  | maven artifact =>
      cases b with
      | maven other => simpa [settings] using hsettings
      | _ => simp [kind] at hkind

theorem toJson_injective : Function.Injective Installer.toJson := by
  intro a b h
  simp only [toJson, Json.obj.injEq, List.cons.injEq, Prod.mk.injEq, Json.str.injEq,
    true_and] at h
  exact eq_of_settings h.1 h.2

theorem isTextual_fetchFields (source : Fetch) : ∀ field ∈ fetchFields source,
    field.2.IsTextual := by
  simp [fetchFields, Json.IsTextual.str, Json.isTextual_ofOption Archive.isTextual_toJson]

theorem isTextual_settings (installer : Installer) : ∀ field ∈ installer.settings,
    field.2.IsTextual := by
  cases installer with
  | provided default => simp [settings, Json.IsTextual.str]
  | http source => exact isTextual_fetchFields source
  | objectStore source => exact isTextual_fetchFields source
  | pythonApp app => simp [settings, Json.IsTextual.str, Json.isTextual_ofOption]
  | goModule m =>
      simp [settings, Json.IsTextual.str, Json.isTextual_ofOption, Json.isTextual_strings,
        Dict.isTextual_toJson]
  | maven artifact => simp [settings, Json.IsTextual.str]

theorem isTextual_toJson (installer : Installer) : installer.toJson.IsTextual :=
  .obj (List.forall_mem_cons.mpr ⟨.str installer.kind, installer.isTextual_settings⟩)

end Installer

/-! ## Bytes -/

/-- The bytes of an array one by one. -/
theorem toList_byteArray (bytes : ByteArray) : bytes.toList = bytes.data.toList := by
  have hloop : ∀ i done, ByteArray.toList.loop bytes i done =
      done.reverse ++ bytes.data.toList.drop i := by
    intro i done
    fun_induction ByteArray.toList.loop bytes i done with
    | case1 i done hlt ih =>
        have hbound : i < bytes.data.toList.length := by simpa using hlt
        rw [ih, List.drop_eq_getElem_cons hbound]
        simp [ByteArray.get!, hlt]
    | case2 i done hle =>
        have hbound : bytes.data.toList.length ≤ i := by simpa using hle
        rw [List.drop_eq_nil_of_le hbound, List.append_nil]
  rw [ByteArray.toList, hloop, List.reverse_nil, List.nil_append, List.drop_zero]

theorem toUTF8_toList_injective : Function.Injective (fun s : String => s.toUTF8.toList) := by
  intro s t h
  simp only [toList_byteArray, Array.toList_inj] at h
  exact String.toByteArray_inj.mp (ByteArray.ext h)

namespace Digest

theorem take_hex (bytes : List UInt8) (n : Nat) :
    (hex bytes).take (2 * n) = hex (bytes.take n) := by
  induction bytes generalizing n with
  | nil => simp [hex]
  | cons b rest ih =>
      cases n with
      | zero => rfl
      | succ n =>
          have hcount : 2 * (n + 1) = 2 * n + 1 + 1 := by omega
          rw [hcount, List.take_succ_cons]
          simp only [hex, List.flatMap_cons, List.cons_append, List.nil_append,
            List.take_succ_cons] at ih ⊢
          rw [ih]

/-- The two digits of a byte read as the byte. -/
theorem natOfDigits?_hexChar (b : UInt8) :
    Decimal.natOfDigits? 16 [hexChar (b >>> 4), hexChar (b &&& 0x0F)] = some b.toNat := by
  have hall : ∀ n < 256, Decimal.natOfDigits? 16
      [hexChar (UInt8.ofNat n >>> 4), hexChar (UInt8.ofNat n &&& 0x0F)] = some n := by
    decide +kernel
  have hb := hall b.toNat b.toNat_lt
  rwa [UInt8.ofNat_toNat] at hb

theorem hex_injective : Function.Injective hex := by
  intro bytes others h
  induction bytes generalizing others with
  | nil =>
      cases others with
      | nil => rfl
      | cons c more => simp [hex] at h
  | cons b rest ih =>
      cases others with
      | nil => simp [hex] at h
      | cons c more =>
          simp only [hex, List.flatMap_cons, List.cons_append, List.nil_append,
            List.cons.injEq] at h ih
          obtain ⟨hhigh, hlow, hrest⟩ := h
          have hread := natOfDigits?_hexChar b
          rw [hhigh, hlow, natOfDigits?_hexChar, Option.some.injEq, UInt8.toNat_inj] at hread
          rw [hread, ih hrest]

/-- Two messages whose hashes start with the same bytes, so many of them. -/
def Collide (size : Nat) (message other : List UInt8) : Prop :=
  message ≠ other ∧ (sha256 message).take size = (sha256 other).take size

end Digest

namespace Installer

/-- What is hashed of an installer. -/
def message (installer : Installer) : List UInt8 :=
  installer.toJson.compactText.toUTF8.toList

theorem message_injective : Function.Injective message := by
  intro a b h
  exact toJson_injective
    (a.isTextual_toJson.eq_of_compactText b.isTextual_toJson (toUTF8_toList_injective h))

theorem digest_eq (installer : Installer) :
    installer.digest = String.ofList (Digest.hex ((Digest.sha256 installer.message).take 6)) := by
  rw [digest, Digest.ofText, String.toList_ofList, ← Digest.take_hex]
  rfl

/-- The bytes that are hashed tell installers apart, and the digest is the first six bytes of the
hash.  So installers that differ in anything share a digest exactly where the hash function collides
on six bytes. -/
theorem message_injective_and_digest_eq_iff :
    Function.Injective message ∧
      (∀ installer : Installer, installer.digest =
        String.ofList (Digest.hex ((Digest.sha256 installer.message).take 6))) ∧
      ∀ a b : Installer, a.digest = b.digest ↔ a = b ∨ Digest.Collide 6 a.message b.message := by
  refine ⟨message_injective, digest_eq, ?_⟩
  intro a b
  have hbytes : a.digest = b.digest ↔
      (Digest.sha256 a.message).take 6 = (Digest.sha256 b.message).take 6 := by
    rw [digest_eq, digest_eq, String.ofList_inj, Digest.hex_injective.eq_iff]
  rw [hbytes, Digest.Collide, message_injective.ne_iff]
  constructor
  · intro h
    exact (eq_or_ne a b).imp_right (fun hne => ⟨hne, h⟩)
  · rintro (rfl | ⟨-, h⟩)
    · rfl
    · exact h

end Installer
end Provision
