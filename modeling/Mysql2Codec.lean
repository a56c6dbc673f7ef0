import Mysql2Codec.Js.Float64
import Mysql2Codec.Js.Exact
import Mysql2Codec.Js.NumberString
import Mysql2Codec.Js.Buffer
import Mysql2Codec.Js.Value
import Mysql2Codec.Js.Long
import Mysql2Codec.Js.Access
import Mysql2Codec.Js.Calendar
import Mysql2Codec.Parser.PacketParser
import Mysql2Codec.Packet.Packet
import Mysql2Codec.Packet.Spec
import Mysql2Codec.Packet.LengthCoded
import Mysql2Codec.Packet.RoundTrip
import Mysql2Codec.Packet.Dates
import Mysql2Codec.Parser.Geometry
import Mysql2Codec.Row.Row
import Mysql2Codec.Row.Assembly
import Mysql2Codec.Row.TextParser
import Mysql2Codec.Row.TextRows
import Mysql2Codec.Row.BinaryParser
import Mysql2Codec.Row.BinaryRows
import Mysql2Codec.Parser.Integers
import Mysql2Codec.Parser.AsciiNumbers
import Mysql2Codec.Js.IntegerText
import Mysql2Codec.Parser.ExactDecimal
import Mysql2Codec.Packet.Parse
import Mysql2Codec.Packet.PrepareStatement
import Mysql2Codec.Packet.SignedNumbers
import Mysql2Codec.Row.ProtocolAgreement
import Mysql2Codec.Row.Payloads
