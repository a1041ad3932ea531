import Calculator.Settings.Location

/-! Settings from the text of a file. No file, and a file with nothing in it, give the
standard settings. The surroundings may force the compatibility mode. -/

namespace Calculator.Settings

/-- Reads the settings in a text. `file` names the file in messages. -/
def read (reader : Reader) (file text : String) : Report :=
  match reader text with
  | .error .malformed => .failed (.unreadable file)
  | .error u => .failed (.unreadableNumber u)
  | .ok d =>
    if d.isTrue then
      match d with
      | .mapping entries => ofEntries entries
      | _ => .failed (.notMapping file)
    else ofEntries []

def force (compatible : Bool) (s : Settings) : Settings :=
  { s with compatible := s.compatible || compatible }

def load (reader : Reader) (surroundings : Surroundings) (file : String) (text : Option String) :
    Report :=
  let report := match text with
    | some t => read reader file t
    | none => ⟨[], .ok standard⟩
  { report with settings := report.settings.map (force surroundings.forcesCompatible) }

end Calculator.Settings
