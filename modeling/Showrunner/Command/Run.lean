import Showrunner.Command.Control
import Showrunner.Command.Sprites

namespace Showrunner

/-- Carries out a command. Scenes are started by `start`. -/
def Handler.run (start : Show → String → Show) (inv : Invocation) : Handler → Act Outcome
  | .echo => Command.echo inv
  | .useFolder => Command.useFolder inv
  | .load => Command.load inv
  | .unload => Command.unload inv
  | .play => Command.play inv
  | .volume => Command.volume inv
  | .place => Command.place inv
  | .put => Command.put inv
  | .window => Command.window inv
  | .zoomWindow => Command.zoomWindow inv
  | .moveWindow => Command.moveWindow inv
  | .remove => Command.remove inv
  | .move => Command.move inv
  | .speed => Command.speed inv
  | .blur => Command.blur inv
  | .resize => Command.resize inv
  | .rescale => Command.rescale inv
  | .rotate => Command.rotate inv
  | .depth => Command.depth inv
  | .frame => Command.frame inv
  | .rate => Command.rate inv
  | .brightness => Command.brightness inv
  | .transparency => Command.transparency inv
  | .start => Command.startScenes start inv
  | .stop => Command.stopScenes inv
  | .visibility => Command.visibility inv
  | .pause => Command.setPaused true inv
  | .resume => Command.setPaused false inv
  | .assign => Command.assign inv
  | .create => Command.create inv
  | .setText => Command.setText inv
  | .setFont => Command.setFont inv
  | .addToGroup => Command.addToGroup inv
  | .dump => Command.dump inv
  | .exit => Command.exit

end Showrunner
