import RvcControl.BoostWindow
import RvcControl.BoostTimeRange
import RvcControl.ManeuverShape
import RvcControl.SensorReplay
import RvcControl.FreshSession
import RvcControl.CommandLog
import RvcControl.CommandLine
import RvcControl.TwoSessions
import RvcControl.ScenarioDrivers
import RvcControl.ScenarioVerdict
import RvcControl.ScenarioReport
import RvcControl.Grid
import RvcControl.ManualLoop
import RvcControl.Roaming
import RvcControl.WayOut
import RvcControl.DustFree
import RvcControl.Linearizability
import RvcControl.HttpApi
import RvcControl.RequestBody
import RvcControl.BodyLayout
import RvcControl.BodyMeaning
import RvcControl.BrowserTab
import RvcControl.AutoTick
import RvcControl.DisplayedRobot
import RvcControl.ScenarioCatalog
import RvcControl.ServerTexts
import RvcControl.PanelVerdict
import RvcControl.PanelWorlds
import RvcControl.PageDust
import RvcControl.Observability
import RvcControl.CommandLineText
import RvcControl.RoomCleaning
import RvcControl.Surroundings
import RvcControl.PageRest
import RvcControl.PageFloor
