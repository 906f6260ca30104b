import Mathlib.Data.List.Nodup
import StmmInputBt.KeyPacket

/-!
# The names of the keys

`InputStrings` (`inputstrings.h`, `inputstrings.cc`): which key codes of `hardwarekey.h` have a name
and which key a name stands for.

## Main results

* `InputStrings.named_of_getStringKey`: what a name stands for has a name.
* `InputStrings.toInt_of_named`: the code of a key that has a name survives as an `int32_t`.
* `InputStrings.getStringKey_getKeyString`: the name of a key stands for this key.
-/

/-- No number occurs twice or is one of the bits of `nMask`. -/
def List.distinctBits : List ℕ → ℕ → Bool
  | [], _ => true
  | n :: ns, nMask => !nMask.testBit n && distinctBits ns (nMask ||| 1 <<< n)

theorem List.nodup_of_distinctBits {ns : List ℕ} {nMask : ℕ} (h : ns.distinctBits nMask) :
    ns.Nodup ∧ ∀ n ∈ ns, nMask.testBit n = false := by
  induction ns generalizing nMask with
  | nil => simp
  | cons n ns ih =>
    rw [distinctBits, Bool.and_eq_true, Bool.not_eq_true'] at h
    obtain ⟨hnodup, hbits⟩ := ih h.2
    simp only [Nat.testBit_or, Bool.or_eq_false_iff] at hbits
    refine ⟨nodup_cons.mpr ⟨fun hmem => ?_, hnodup⟩, fun k hk => ?_⟩
    · simpa [Nat.testBit_shiftLeft] using (hbits n hmem).2
    · rcases mem_cons.mp hk with rfl | hk
      · exact h.1
      · exact (hbits k hk).1

namespace StmmInputBt

namespace InputStrings

/-- `m_oKeyStringMap`, in the order of `initKeyMap`, with the codes of `hardwarekey.h`. -/
def keyStringMap : List (ℕ × String) :=
  [(0, "NULL"), (1, "ESC"), (2, "1"), (3, "2"), (4, "3"), (5, "4"), (6, "5"), (7, "6"), (8, "7"),
   (9, "8"), (10, "9"), (11, "0"), (12, "MINUS"), (13, "EQUAL"), (14, "BACKSPACE"), (15, "TAB"),
   (16, "Q"), (17, "W"), (18, "E"), (19, "R"), (20, "T"), (21, "Y"), (22, "U"), (23, "I"),
   (24, "O"), (25, "P"), (26, "LEFTBRACE"), (27, "RIGHTBRACE"), (28, "ENTER"), (29, "LEFTCTRL"),
   (30, "A"), (31, "S"), (32, "D"), (33, "F"), (34, "G"), (35, "H"), (36, "J"), (37, "K"),
   (38, "L"), (39, "SEMICOLON"), (40, "APOSTROPHE"), (41, "GRAVE"), (42, "LEFTSHIFT"),
   (43, "BACKSLASH"), (44, "Z"), (45, "X"), (46, "C"), (47, "V"), (48, "B"), (49, "N"), (50, "M"),
   (51, "COMMA"), (52, "DOT"), (53, "SLASH"), (54, "RIGHTSHIFT"), (55, "KPASTERISK"),
   (56, "LEFTALT"), (57, "SPACE"), (58, "CAPSLOCK"), (59, "F1"), (60, "F2"), (61, "F3"), (62, "F4"),
   (63, "F5"), (64, "F6"), (65, "F7"), (66, "F8"), (67, "F9"), (68, "F10"), (69, "NUMLOCK"),
   (70, "SCROLLLOCK"), (71, "KP7"), (72, "KP8"), (73, "KP9"), (74, "KPMINUS"), (75, "KP4"),
   (76, "KP5"), (77, "KP6"), (78, "KPPLUS"), (79, "KP1"), (80, "KP2"), (81, "KP3"), (82, "KP0"),
   (83, "KPDOT"), (85, "ZENKAKUHANKAKU"), (86, "102ND"), (87, "F11"), (88, "F12"), (89, "RO"),
   (90, "KATAKANA"), (91, "HIRAGANA"), (92, "HENKAN"), (93, "KATAKANAHIRAGANA"), (94, "MUHENKAN"),
   (95, "KPJPCOMMA"), (96, "KPENTER"), (97, "RIGHTCTRL"), (98, "KPSLASH"), (99, "SYSRQ"),
   (100, "RIGHTALT"), (101, "LINEFEED"), (102, "HOME"), (103, "UP"), (104, "PAGEUP"), (105, "LEFT"),
   (106, "RIGHT"), (107, "END"), (108, "DOWN"), (109, "PAGEDOWN"), (110, "INSERT"), (111, "DELETE"),
   (112, "MACRO"), (113, "MUTE"), (114, "VOLUMEDOWN"), (115, "VOLUMEUP"), (116, "POWER"),
   (117, "KPEQUAL"), (118, "KPPLUSMINUS"), (119, "PAUSE"), (120, "SCALE"), (121, "KPCOMMA"),
   (122, "HANGEUL"), (123, "HANJA"), (124, "YEN"), (125, "LEFTMETA"), (126, "RIGHTMETA"),
   (127, "COMPOSE"), (128, "STOP"), (129, "AGAIN"), (130, "PROPS"), (131, "UNDO"), (132, "FRONT"),
   (133, "COPY"), (134, "OPEN"), (135, "PASTE"), (136, "FIND"), (137, "CUT"), (138, "HELP"),
   (139, "MENU"), (140, "CALC"), (141, "SETUP"), (142, "SLEEP"), (143, "WAKEUP"), (144, "FILE"),
   (145, "SENDFILE"), (146, "DELETEFILE"), (147, "XFER"), (148, "PROG1"), (149, "PROG2"),
   (150, "WWW"), (151, "MSDOS"), (152, "SCREENLOCK"), (153, "DIRECTION"), (154, "CYCLEWINDOWS"),
   (155, "MAIL"), (156, "BOOKMARKS"), (157, "COMPUTER"), (158, "BACK"), (159, "FORWARD"),
   (160, "CLOSECD"), (161, "EJECTCD"), (162, "EJECTCLOSECD"), (163, "NEXTSONG"), (164, "PLAYPAUSE"),
   (165, "PREVIOUSSONG"), (166, "STOPCD"), (167, "RECORD"), (168, "REWIND"), (169, "PHONE"),
   (170, "ISO"), (171, "CONFIG"), (172, "HOMEPAGE"), (173, "REFRESH"), (174, "EXIT"), (175, "MOVE"),
   (176, "EDIT"), (177, "SCROLLUP"), (178, "SCROLLDOWN"), (179, "KPLEFTPAREN"),
   (180, "KPRIGHTPAREN"), (181, "NEW"), (182, "REDO"), (183, "F13"), (184, "F14"), (185, "F15"),
   (186, "F16"), (187, "F17"), (188, "F18"), (189, "F19"), (190, "F20"), (191, "F21"), (192, "F22"),
   (193, "F23"), (194, "F24"), (200, "PLAYCD"), (201, "PAUSECD"), (202, "PROG3"), (203, "PROG4"),
   (204, "DASHBOARD"), (205, "SUSPEND"), (206, "CLOSE"), (207, "PLAY"), (208, "FASTFORWARD"),
   (209, "BASSBOOST"), (210, "PRINT"), (211, "HP"), (212, "CAMERA"), (213, "SOUND"),
   (214, "QUESTION"), (215, "EMAIL"), (216, "CHAT"), (217, "SEARCH"), (218, "CONNECT"),
   (219, "FINANCE"), (220, "SPORT"), (221, "SHOP"), (222, "ALTERASE"), (223, "CANCEL"),
   (224, "BRIGHTNESSDOWN"), (225, "BRIGHTNESSUP"), (226, "MEDIA"), (227, "SWITCHVIDEOMODE"),
   (228, "KBDILLUMTOGGLE"), (229, "KBDILLUMDOWN"), (230, "KBDILLUMUP"), (231, "SEND"),
   (232, "REPLY"), (233, "FORWARDMAIL"), (234, "SAVE"), (235, "DOCUMENTS"), (236, "BATTERY"),
   (237, "BLUETOOTH"), (238, "WLAN"), (239, "UWB"), (240, "UNKNOWN"), (241, "VIDEO_NEXT"),
   (242, "VIDEO_PREV"), (243, "BRIGHTNESS_CYCLE"), (244, "BRIGHTNESS_ZERO"), (245, "DISPLAY_OFF"),
   (246, "WIMAX"), (247, "RFKILL"), (248, "MICMUTE"), (256, "BTN_0"), (257, "BTN_1"),
   (258, "BTN_2"), (259, "BTN_3"), (260, "BTN_4"), (261, "BTN_5"), (262, "BTN_6"), (263, "BTN_7"),
   (264, "BTN_8"), (265, "BTN_9"), (272, "BTN_LEFT"), (273, "BTN_RIGHT"), (274, "BTN_MIDDLE"),
   (275, "BTN_SIDE"), (276, "BTN_EXTRA"), (277, "BTN_FORWARD"), (278, "BTN_BACK"),
   (279, "BTN_TASK"), (288, "BTN_TRIGGER"), (289, "BTN_THUMB"), (290, "BTN_THUMB2"),
   (291, "BTN_TOP"), (292, "BTN_TOP2"), (293, "BTN_PINKIE"), (294, "BTN_BASE"), (295, "BTN_BASE2"),
   (296, "BTN_BASE3"), (297, "BTN_BASE4"), (298, "BTN_BASE5"), (299, "BTN_BASE6"),
   (303, "BTN_DEAD"), (304, "BTN_A"), (305, "BTN_B"), (306, "BTN_C"), (307, "BTN_X"),
   (308, "BTN_Y"), (309, "BTN_Z"), (310, "BTN_TL"), (311, "BTN_TR"), (312, "BTN_TL2"),
   (313, "BTN_TR2"), (314, "BTN_SELECT"), (315, "BTN_START"), (316, "BTN_MODE"),
   (317, "BTN_THUMBL"), (318, "BTN_THUMBR"), (320, "BTN_TOOL_PEN"), (321, "BTN_TOOL_RUBBER"),
   (322, "BTN_TOOL_BRUSH"), (323, "BTN_TOOL_PENCIL"), (324, "BTN_TOOL_AIRBRUSH"),
   (325, "BTN_TOOL_FINGER"), (326, "BTN_TOOL_MOUSE"), (327, "BTN_TOOL_LENS"),
   (328, "BTN_TOOL_QUINTTAP"), (330, "BTN_TOUCH"), (331, "BTN_STYLUS"), (332, "BTN_STYLUS2"),
   (333, "BTN_TOOL_DOUBLETAP"), (334, "BTN_TOOL_TRIPLETAP"), (335, "BTN_TOOL_QUADTAP"),
   (336, "BTN_GEAR_DOWN"), (337, "BTN_GEAR_UP"), (352, "OK"), (353, "SELECT"), (354, "GOTO"),
   (355, "CLEAR"), (356, "POWER2"), (357, "OPTION"), (358, "INFO"), (359, "TIME"), (360, "VENDOR"),
   (361, "ARCHIVE"), (362, "PROGRAM"), (363, "CHANNEL"), (364, "FAVORITES"), (365, "EPG"),
   (366, "PVR"), (367, "MHP"), (368, "LANGUAGE"), (369, "TITLE"), (370, "SUBTITLE"), (371, "ANGLE"),
   (372, "ZOOM"), (373, "MODE"), (374, "KEYBOARD"), (375, "SCREEN"), (376, "PC"), (377, "TV"),
   (378, "TV2"), (379, "VCR"), (380, "VCR2"), (381, "SAT"), (382, "SAT2"), (383, "CD"),
   (384, "TAPE"), (385, "RADIO"), (386, "TUNER"), (387, "PLAYER"), (388, "TEXT"), (389, "DVD"),
   (390, "AUX"), (391, "MP3"), (392, "AUDIO"), (393, "VIDEO"), (394, "DIRECTORY"), (395, "LIST"),
   (396, "MEMO"), (397, "CALENDAR"), (398, "RED"), (399, "GREEN"), (400, "YELLOW"), (401, "BLUE"),
   (402, "CHANNELUP"), (403, "CHANNELDOWN"), (404, "FIRST"), (405, "LAST"), (406, "AB"),
   (407, "NEXT"), (408, "RESTART"), (409, "SLOW"), (410, "SHUFFLE"), (411, "BREAK"),
   (412, "PREVIOUS"), (413, "DIGITS"), (414, "TEEN"), (415, "TWEN"), (416, "VIDEOPHONE"),
   (417, "GAMES"), (418, "ZOOMIN"), (419, "ZOOMOUT"), (420, "ZOOMRESET"), (421, "WORDPROCESSOR"),
   (422, "EDITOR"), (423, "SPREADSHEET"), (424, "GRAPHICSEDITOR"), (425, "PRESENTATION"),
   (426, "DATABASE"), (427, "NEWS"), (428, "VOICEMAIL"), (429, "ADDRESSBOOK"), (430, "MESSENGER"),
   (431, "BRIGHTNESS_TOGGLE"), (432, "SPELLCHECK"), (433, "LOGOFF"), (434, "DOLLAR"), (435, "EURO"),
   (436, "FRAMEBACK"), (437, "FRAMEFORWARD"), (438, "CONTEXT_MENU"), (439, "MEDIA_REPEAT"),
   (440, "10CHANNELSUP"), (441, "10CHANNELSDOWN"), (442, "IMAGES"), (448, "DEL_EOL"),
   (449, "DEL_EOS"), (450, "INS_LINE"), (451, "DEL_LINE"), (464, "FN"), (465, "FN_ESC"),
   (466, "FN_F1"), (467, "FN_F2"), (468, "FN_F3"), (469, "FN_F4"), (470, "FN_F5"), (471, "FN_F6"),
   (472, "FN_F7"), (473, "FN_F8"), (474, "FN_F9"), (475, "FN_F10"), (476, "FN_F11"),
   (477, "FN_F12"), (478, "FN_1"), (479, "FN_2"), (480, "FN_D"), (481, "FN_E"), (482, "FN_F"),
   (483, "FN_S"), (484, "FN_B"), (497, "BRL_DOT1"), (498, "BRL_DOT2"), (499, "BRL_DOT3"),
   (500, "BRL_DOT4"), (501, "BRL_DOT5"), (502, "BRL_DOT6"), (503, "BRL_DOT7"), (504, "BRL_DOT8"),
   (505, "BRL_DOT9"), (506, "BRL_DOT10"), (512, "NUMERIC_0"), (513, "NUMERIC_1"),
   (514, "NUMERIC_2"), (515, "NUMERIC_3"), (516, "NUMERIC_4"), (517, "NUMERIC_5"),
   (518, "NUMERIC_6"), (519, "NUMERIC_7"), (520, "NUMERIC_8"), (521, "NUMERIC_9"),
   (522, "NUMERIC_STAR"), (523, "NUMERIC_POUND"), (528, "CAMERA_FOCUS"), (529, "WPS_BUTTON"),
   (530, "TOUCHPAD_TOGGLE"), (531, "TOUCHPAD_ON"), (532, "TOUCHPAD_OFF"), (533, "CAMERA_ZOOMIN"),
   (534, "CAMERA_ZOOMOUT"), (535, "CAMERA_UP"), (536, "CAMERA_DOWN"), (537, "CAMERA_LEFT"),
   (538, "CAMERA_RIGHT"), (539, "ATTENDANT_ON"), (540, "ATTENDANT_OFF"), (541, "ATTENDANT_TOGGLE"),
   (542, "LIGHTS_TOGGLE"), (544, "BTN_DPAD_UP"), (545, "BTN_DPAD_DOWN"), (546, "BTN_DPAD_LEFT"),
   (547, "BTN_DPAD_RIGHT"), (560, "ALS_TOGGLE"), (576, "BUTTONCONFIG"), (577, "TASKMANAGER"),
   (578, "JOURNAL"), (579, "CONTROLPANEL"), (580, "APPSELECT"), (581, "SCREENSAVER"),
   (582, "VOICECOMMAND"), (592, "BRIGHTNESS_MIN"), (593, "BRIGHTNESS_MAX"),
   (608, "KBDINPUTASSIST_PREV"), (609, "KBDINPUTASSIST_NEXT"), (610, "KBDINPUTASSIST_PREVGROUP"),
   (611, "KBDINPUTASSIST_NEXTGROUP"), (612, "KBDINPUTASSIST_ACCEPT"),
   (613, "KBDINPUTASSIST_CANCEL"), (704, "BTN_TRIGGER_HAPPY1"), (705, "BTN_TRIGGER_HAPPY2"),
   (706, "BTN_TRIGGER_HAPPY3"), (707, "BTN_TRIGGER_HAPPY4"), (708, "BTN_TRIGGER_HAPPY5"),
   (709, "BTN_TRIGGER_HAPPY6"), (710, "BTN_TRIGGER_HAPPY7"), (711, "BTN_TRIGGER_HAPPY8"),
   (712, "BTN_TRIGGER_HAPPY9"), (713, "BTN_TRIGGER_HAPPY10"), (714, "BTN_TRIGGER_HAPPY11"),
   (715, "BTN_TRIGGER_HAPPY12"), (716, "BTN_TRIGGER_HAPPY13"), (717, "BTN_TRIGGER_HAPPY14"),
   (718, "BTN_TRIGGER_HAPPY15"), (719, "BTN_TRIGGER_HAPPY16"), (720, "BTN_TRIGGER_HAPPY17"),
   (721, "BTN_TRIGGER_HAPPY18"), (722, "BTN_TRIGGER_HAPPY19"), (723, "BTN_TRIGGER_HAPPY20"),
   (724, "BTN_TRIGGER_HAPPY21"), (725, "BTN_TRIGGER_HAPPY22"), (726, "BTN_TRIGGER_HAPPY23"),
   (727, "BTN_TRIGGER_HAPPY24"), (728, "BTN_TRIGGER_HAPPY25"), (729, "BTN_TRIGGER_HAPPY26"),
   (730, "BTN_TRIGGER_HAPPY27"), (731, "BTN_TRIGGER_HAPPY28"), (732, "BTN_TRIGGER_HAPPY29"),
   (733, "BTN_TRIGGER_HAPPY30"), (734, "BTN_TRIGGER_HAPPY31"), (735, "BTN_TRIGGER_HAPPY32"),
   (736, "BTN_TRIGGER_HAPPY33"), (737, "BTN_TRIGGER_HAPPY34"), (738, "BTN_TRIGGER_HAPPY35"),
   (739, "BTN_TRIGGER_HAPPY36"), (740, "BTN_TRIGGER_HAPPY37"), (741, "BTN_TRIGGER_HAPPY38"),
   (742, "BTN_TRIGGER_HAPPY39"), (743, "BTN_TRIGGER_HAPPY40"), (768, "X_SCROLL_LEFT"),
   (769, "X_SCROLL_RIGHT")]

/-- `getKeyString`: the name of the key, empty if it has none. -/
def getKeyString (eKey : HardwareKey) : String :=
  match keyStringMap.find? fun p => p.1 = eKey.toNat with
  | none => ""
  | some p => p.2

/-- `getStringKey`: the key of the name. No name occurs twice in the map, so that its order plays no
part. -/
def getStringKey (sName : String) : Option HardwareKey :=
  (keyStringMap.find? fun p => p.2 = sName).map fun p => BitVec.ofNat 32 p.1

/-- The key has a name. -/
def Named (eKey : HardwareKey) : Prop :=
  getKeyString eKey ≠ ""

instance (eKey : HardwareKey) : Decidable (Named eKey) :=
  inferInstanceAs (Decidable (_ ≠ _))

variable {eKey : HardwareKey} {sName : String}

/-- No name is empty, and the codes are small. -/
theorem ne_empty_of_mem : ∀ p ∈ keyStringMap, p.2 ≠ "" ∧ p.1 < 2 ^ 31 := by
  decide +kernel

theorem named_iff : Named eKey ↔ ∃ p ∈ keyStringMap, p.1 = eKey.toNat := by
  rw [Named, getKeyString]
  split
  · next hnone =>
    refine iff_of_false (fun h => h rfl) ?_
    rintro ⟨p, hmem, hcode⟩
    exact List.find?_eq_none.mp hnone p hmem (decide_eq_true hcode)
  · next p hsome =>
    have hmem : p ∈ keyStringMap := List.mem_of_find?_eq_some hsome
    have hcode : p.1 = eKey.toNat := by simpa using List.find?_some hsome
    exact iff_of_true (ne_empty_of_mem p hmem).1 ⟨p, hmem, hcode⟩

/-- What a name stands for has a name. -/
theorem named_of_getStringKey (h : getStringKey sName = some eKey) : Named eKey := by
  obtain ⟨p, hfind, rfl⟩ := Option.map_eq_some_iff.mp h
  have hmem : p ∈ keyStringMap := List.mem_of_find?_eq_some hfind
  have hsmall := (ne_empty_of_mem p hmem).2
  refine named_iff.mpr ⟨p, hmem, ?_⟩
  rw [BitVec.toNat_ofNat, Nat.mod_eq_of_lt (hsmall.trans (by decide))]

/-- The code of a key that has a name survives as an `int32_t`. -/
theorem toInt_of_named (h : Named eKey) : eKey.toInt = eKey.toNat ∧ eKey.toNat < 2 ^ 31 := by
  obtain ⟨p, hmem, hcode⟩ := named_iff.mp h
  have hsmall : eKey.toNat < 2 ^ 31 := hcode ▸ (ne_empty_of_mem p hmem).2
  exact ⟨BitVec.toInt_eq_toNat_of_lt (by omega), hsmall⟩

theorem named_hkNull : Named hkNull := by
  decide +kernel

/-- A number for a name, different for the names of the map. -/
def nameCode (sName : String) : ℕ :=
  sName.toByteArray.data.toList.foldl (fun n c => n * 256 + c.toNat) 0 % 15150

theorem nodup_names : (keyStringMap.map Prod.snd).Nodup := by
  have hcodes : ((keyStringMap.map Prod.snd).map nameCode).distinctBits 0 := by
    decide +kernel
  exact (List.nodup_of_distinctBits hcodes).1.of_map nameCode

/-- The name of a key stands for this key. -/
theorem getStringKey_getKeyString (h : Named eKey) :
    getStringKey (getKeyString eKey) = some eKey := by
  obtain ⟨p, hfind⟩ : ∃ p, (keyStringMap.find? fun p => p.1 = eKey.toNat) = some p := by
    refine Option.ne_none_iff_exists'.mp fun hnone => h ?_
    rw [getKeyString, hnone]
  have hmem : p ∈ keyStringMap := List.mem_of_find?_eq_some hfind
  have hcode : p.1 = eKey.toNat := by simpa using List.find?_some hfind
  have hname : getKeyString eKey = p.2 := by rw [getKeyString, hfind]
  obtain ⟨p', hfind'⟩ : ∃ p', (keyStringMap.find? fun q => q.2 = p.2) = some p' :=
    Option.isSome_iff_exists.mp (List.find?_isSome.mpr ⟨p, hmem, decide_eq_true rfl⟩)
  have hmem' : p' ∈ keyStringMap := List.mem_of_find?_eq_some hfind'
  have hname' : p'.2 = p.2 := by simpa using List.find?_some hfind'
  obtain rfl := List.inj_on_of_nodup_map nodup_names hmem' hmem hname'
  rw [getStringKey, hname, hfind', Option.map_some, hcode, BitVec.ofNat_toNat,
    BitVec.setWidth_eq]

end InputStrings

end StmmInputBt
