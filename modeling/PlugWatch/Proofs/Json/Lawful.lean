import PlugWatch.Json.BrickForm
import PlugWatch.Json.ConfigForm
import PlugWatch.Proofs.Json.Respelled
/-!
# Every form but one reads every spelling

A value that has a name is the only one with that name, and a record is made of the spellings of its
fields. So the forms of ports, devices, snapshots and of the configuration read whatever spells what they
write. The form of a test-pin request is not among them: it looks at fields that it does not want.

## Main Statements

* The instances of `LawfulJsonForm`.
-/

namespace PlugWatch

open JsonForm (encode decode? wellSpelled_encode decode?_respelled wellSpelled_object decode?_ofKeys
  decode?_of_fields)
open Json (RespelledItems)

/-! ## Names -/

instance : LawfulJsonForm Port where
  wellSpelled_encode _ := rfl
  decode?_respelled := decode?_ofKeys fun port => by cases port <;> decide

instance : LawfulJsonForm DeviceType where
  wellSpelled_encode _ := rfl
  decode?_respelled := decode?_ofKeys fun device => by cases device <;> decide

instance : LawfulJsonForm Connection where
  wellSpelled_encode _ := rfl
  decode?_respelled := decode?_ofKeys fun connection => by cases connection <;> decide

instance : LawfulJsonForm Stage where
  wellSpelled_encode _ := rfl
  decode?_respelled := decode?_ofKeys fun stage => by cases stage <;> decide

/-! ## Records -/

instance : LawfulJsonForm Classification where
  wellSpelled_encode _ := wellSpelled_object (by simp [wellSpelled_encode])
  decode?_respelled h := decode?_of_fields rfl rfl (by simp) h fun values hvalues => by
    obtain - | ⟨hdevice, - | ⟨hconnection, - | _⟩⟩ := hvalues
    simp [decode?_respelled hdevice, decode?_respelled hconnection]

instance : LawfulJsonForm ColorData where
  wellSpelled_encode _ := wellSpelled_object (by simp [wellSpelled_encode])
  decode?_respelled h := decode?_of_fields rfl rfl (by simp) h fun values hvalues => by
    obtain - | ⟨hcalibration, - | ⟨hlimits, - | ⟨hcrc, - | ⟨had, - | ⟨hsensor, - | _⟩⟩⟩⟩⟩ := hvalues
    simp [decode?_respelled hcalibration, decode?_respelled hlimits, decode?_respelled hcrc,
      decode?_respelled had, decode?_respelled hsensor]

instance : LawfulJsonForm PortSnapshot where
  wellSpelled_encode _ := wellSpelled_object (by simp [wellSpelled_encode])
  decode?_respelled h := decode?_of_fields rfl rfl (by simp) h fun values hvalues => by
    obtain - | ⟨hport, - | ⟨hstage, - | ⟨hclassification, - | ⟨hconnected, - | ⟨henabled,
      - | ⟨hmillivolts, - | _⟩⟩⟩⟩⟩⟩ := hvalues
    simp [decode?_respelled hport, decode?_respelled hstage, decode?_respelled hclassification,
      decode?_respelled hconnected, decode?_respelled henabled, decode?_respelled hmillivolts]

instance : LawfulJsonForm DetectionConfig where
  wellSpelled_encode _ := wellSpelled_object (by simp [wellSpelled_encode])
  decode?_respelled h := decode?_of_fields rfl rfl (by simp) h fun values hvalues => by
    obtain - | ⟨htick, - | ⟨hreset, - | ⟨hfloat, - | ⟨hlow, - | ⟨htouch, - | ⟨hconnect,
      - | ⟨hrelease, - | ⟨hcolor, - | ⟨hpin2, - | ⟨hlegacy, - | _⟩⟩⟩⟩⟩⟩⟩⟩⟩⟩ := hvalues
    simp [decode?_respelled htick, decode?_respelled hreset, decode?_respelled hfloat,
      decode?_respelled hlow, decode?_respelled htouch, decode?_respelled hconnect,
      decode?_respelled hrelease, decode?_respelled hcolor, decode?_respelled hpin2,
      decode?_respelled hlegacy]

instance : LawfulJsonForm Periods where
  wellSpelled_encode periods :=
    ⟨wellSpelled_encode periods.short, wellSpelled_encode periods.long, trivial⟩
  decode?_respelled h := by
    obtain ⟨items, rfl, - | ⟨hshort, - | ⟨hlong, - | _⟩⟩⟩ := h.of_list
    show (do return (⟨← decode? _, ← decode? _⟩ : Periods)) = _
    simp [decode?_respelled hshort, decode?_respelled hlong]

instance : LawfulJsonForm SamplerConfig where
  wellSpelled_encode _ := wellSpelled_object (by simp [wellSpelled_encode])
  decode?_respelled h := decode?_of_fields rfl rfl (by simp) h fun values hvalues => by
    obtain - | ⟨hnormal, - | ⟨hcolor, - | _⟩⟩ := hvalues
    simp [decode?_respelled hnormal, decode?_respelled hcolor]

instance : LawfulJsonForm LinkConfig where
  wellSpelled_encode _ := wellSpelled_object (by simp [wellSpelled_encode])
  decode?_respelled h := decode?_of_fields rfl rfl (by simp) h fun values hvalues => by
    obtain - | ⟨htimer, - | ⟨hdelay, - | _⟩⟩ := hvalues
    simp [decode?_respelled htimer, decode?_respelled hdelay]

instance : LawfulJsonForm WebConfig where
  wellSpelled_encode _ := wellSpelled_object (by simp [wellSpelled_encode])
  decode?_respelled h := decode?_of_fields rfl rfl (by simp) h fun values hvalues => by
    obtain - | ⟨hhost, - | ⟨hport, - | ⟨hcors, - | ⟨henabled, - | _⟩⟩⟩⟩ := hvalues
    simp [decode?_respelled hhost, decode?_respelled hport, decode?_respelled hcors,
      decode?_respelled henabled]

instance : LawfulJsonForm Config where
  wellSpelled_encode _ := wellSpelled_object (by simp [wellSpelled_encode])
  decode?_respelled h := decode?_of_fields rfl rfl (by simp) h fun values hvalues => by
    obtain - | ⟨hdetection, - | ⟨hsampler, - | ⟨hlink, - | ⟨hweb, - | _⟩⟩⟩⟩ := hvalues
    simp [decode?_respelled hdetection, decode?_respelled hsampler, decode?_respelled hlink,
      decode?_respelled hweb]

end PlugWatch
