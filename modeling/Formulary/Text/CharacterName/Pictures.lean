import Formulary.Text.CharacterName.Row

namespace Formulary.Text.CharacterName

-- Notations for music and mathematics, pictures, and the characters of the last planes
def pictures : List Row :=
  [⟨0x18800, "TANGUT ",
    ["COMPONENT-001;COMPONENT-002;COMPONENT-003;COMPONENT-004;COMPONENT-005;COMPONENT-006",
     "COMPONENT-007;COMPONENT-008;COMPONENT-009;COMPONENT-010;COMPONENT-011;COMPONENT-012",
     "COMPONENT-013;COMPONENT-014;COMPONENT-015;COMPONENT-016;COMPONENT-017;COMPONENT-018",
     "COMPONENT-019;COMPONENT-020;COMPONENT-021;COMPONENT-022;COMPONENT-023;COMPONENT-024",
     "COMPONENT-025;COMPONENT-026;COMPONENT-027;COMPONENT-028;COMPONENT-029;COMPONENT-030",
     "COMPONENT-031;COMPONENT-032;COMPONENT-033;COMPONENT-034;COMPONENT-035;COMPONENT-036",
     "COMPONENT-037;COMPONENT-038;COMPONENT-039;COMPONENT-040;COMPONENT-041;COMPONENT-042",
     "COMPONENT-043;COMPONENT-044;COMPONENT-045;COMPONENT-046;COMPONENT-047;COMPONENT-048",
     "COMPONENT-049;COMPONENT-050;COMPONENT-051;COMPONENT-052;COMPONENT-053;COMPONENT-054",
     "COMPONENT-055;COMPONENT-056;COMPONENT-057;COMPONENT-058;COMPONENT-059;COMPONENT-060",
     "COMPONENT-061;COMPONENT-062;COMPONENT-063;COMPONENT-064;COMPONENT-065;COMPONENT-066",
     "COMPONENT-067;COMPONENT-068;COMPONENT-069;COMPONENT-070;COMPONENT-071;COMPONENT-072",
     "COMPONENT-073;COMPONENT-074;COMPONENT-075;COMPONENT-076;COMPONENT-077;COMPONENT-078",
     "COMPONENT-079;COMPONENT-080;COMPONENT-081;COMPONENT-082;COMPONENT-083;COMPONENT-084",
     "COMPONENT-085;COMPONENT-086;COMPONENT-087;COMPONENT-088;COMPONENT-089;COMPONENT-090",
     "COMPONENT-091;COMPONENT-092;COMPONENT-093;COMPONENT-094;COMPONENT-095;COMPONENT-096",
     "COMPONENT-097;COMPONENT-098;COMPONENT-099;COMPONENT-100;COMPONENT-101;COMPONENT-102",
     "COMPONENT-103;COMPONENT-104;COMPONENT-105;COMPONENT-106;COMPONENT-107;COMPONENT-108",
     "COMPONENT-109;COMPONENT-110;COMPONENT-111;COMPONENT-112;COMPONENT-113;COMPONENT-114",
     "COMPONENT-115;COMPONENT-116;COMPONENT-117;COMPONENT-118;COMPONENT-119;COMPONENT-120",
     "COMPONENT-121;COMPONENT-122;COMPONENT-123;COMPONENT-124;COMPONENT-125;COMPONENT-126",
     "COMPONENT-127;COMPONENT-128;COMPONENT-129;COMPONENT-130;COMPONENT-131;COMPONENT-132",
     "COMPONENT-133;COMPONENT-134;COMPONENT-135;COMPONENT-136;COMPONENT-137;COMPONENT-138",
     "COMPONENT-139;COMPONENT-140;COMPONENT-141;COMPONENT-142;COMPONENT-143;COMPONENT-144",
     "COMPONENT-145;COMPONENT-146;COMPONENT-147;COMPONENT-148;COMPONENT-149;COMPONENT-150",
     "COMPONENT-151;COMPONENT-152;COMPONENT-153;COMPONENT-154;COMPONENT-155;COMPONENT-156",
     "COMPONENT-157;COMPONENT-158;COMPONENT-159"]⟩,
   ⟨0x1889f, "TANGUT ",
    ["COMPONENT-160;COMPONENT-161;COMPONENT-162;COMPONENT-163;COMPONENT-164;COMPONENT-165",
     "COMPONENT-166;COMPONENT-167;COMPONENT-168;COMPONENT-169;COMPONENT-170;COMPONENT-171",
     "COMPONENT-172;COMPONENT-173;COMPONENT-174;COMPONENT-175;COMPONENT-176;COMPONENT-177",
     "COMPONENT-178;COMPONENT-179;COMPONENT-180;COMPONENT-181;COMPONENT-182;COMPONENT-183",
     "COMPONENT-184;COMPONENT-185;COMPONENT-186;COMPONENT-187;COMPONENT-188;COMPONENT-189",
     "COMPONENT-190;COMPONENT-191;COMPONENT-192;COMPONENT-193;COMPONENT-194;COMPONENT-195",
     "COMPONENT-196;COMPONENT-197;COMPONENT-198;COMPONENT-199;COMPONENT-200;COMPONENT-201",
     "COMPONENT-202;COMPONENT-203;COMPONENT-204;COMPONENT-205;COMPONENT-206;COMPONENT-207",
     "COMPONENT-208;COMPONENT-209;COMPONENT-210;COMPONENT-211;COMPONENT-212;COMPONENT-213",
     "COMPONENT-214;COMPONENT-215;COMPONENT-216;COMPONENT-217;COMPONENT-218;COMPONENT-219",
     "COMPONENT-220;COMPONENT-221;COMPONENT-222;COMPONENT-223;COMPONENT-224;COMPONENT-225",
     "COMPONENT-226;COMPONENT-227;COMPONENT-228;COMPONENT-229;COMPONENT-230;COMPONENT-231",
     "COMPONENT-232;COMPONENT-233;COMPONENT-234;COMPONENT-235;COMPONENT-236;COMPONENT-237",
     "COMPONENT-238;COMPONENT-239;COMPONENT-240;COMPONENT-241;COMPONENT-242;COMPONENT-243",
     "COMPONENT-244;COMPONENT-245;COMPONENT-246;COMPONENT-247;COMPONENT-248;COMPONENT-249",
     "COMPONENT-250;COMPONENT-251;COMPONENT-252;COMPONENT-253;COMPONENT-254;COMPONENT-255",
     "COMPONENT-256;COMPONENT-257;COMPONENT-258;COMPONENT-259;COMPONENT-260;COMPONENT-261",
     "COMPONENT-262;COMPONENT-263;COMPONENT-264;COMPONENT-265;COMPONENT-266;COMPONENT-267",
     "COMPONENT-268;COMPONENT-269;COMPONENT-270;COMPONENT-271;COMPONENT-272;COMPONENT-273",
     "COMPONENT-274;COMPONENT-275;COMPONENT-276;COMPONENT-277;COMPONENT-278;COMPONENT-279",
     "COMPONENT-280;COMPONENT-281;COMPONENT-282;COMPONENT-283;COMPONENT-284;COMPONENT-285",
     "COMPONENT-286;COMPONENT-287;COMPONENT-288;COMPONENT-289;COMPONENT-290;COMPONENT-291",
     "COMPONENT-292;COMPONENT-293;COMPONENT-294;COMPONENT-295;COMPONENT-296;COMPONENT-297",
     "COMPONENT-298;COMPONENT-299;COMPONENT-300;COMPONENT-301;COMPONENT-302;COMPONENT-303",
     "COMPONENT-304;COMPONENT-305;COMPONENT-306;COMPONENT-307;COMPONENT-308;COMPONENT-309",
     "COMPONENT-310;COMPONENT-311;COMPONENT-312;COMPONENT-313;COMPONENT-314;COMPONENT-315",
     "COMPONENT-316;COMPONENT-317;COMPONENT-318"]⟩,
   ⟨0x1893e, "TANGUT ",
    ["COMPONENT-319;COMPONENT-320;COMPONENT-321;COMPONENT-322;COMPONENT-323;COMPONENT-324",
     "COMPONENT-325;COMPONENT-326;COMPONENT-327;COMPONENT-328;COMPONENT-329;COMPONENT-330",
     "COMPONENT-331;COMPONENT-332;COMPONENT-333;COMPONENT-334;COMPONENT-335;COMPONENT-336",
     "COMPONENT-337;COMPONENT-338;COMPONENT-339;COMPONENT-340;COMPONENT-341;COMPONENT-342",
     "COMPONENT-343;COMPONENT-344;COMPONENT-345;COMPONENT-346;COMPONENT-347;COMPONENT-348",
     "COMPONENT-349;COMPONENT-350;COMPONENT-351;COMPONENT-352;COMPONENT-353;COMPONENT-354",
     "COMPONENT-355;COMPONENT-356;COMPONENT-357;COMPONENT-358;COMPONENT-359;COMPONENT-360",
     "COMPONENT-361;COMPONENT-362;COMPONENT-363;COMPONENT-364;COMPONENT-365;COMPONENT-366",
     "COMPONENT-367;COMPONENT-368;COMPONENT-369;COMPONENT-370;COMPONENT-371;COMPONENT-372",
     "COMPONENT-373;COMPONENT-374;COMPONENT-375;COMPONENT-376;COMPONENT-377;COMPONENT-378",
     "COMPONENT-379;COMPONENT-380;COMPONENT-381;COMPONENT-382;COMPONENT-383;COMPONENT-384",
     "COMPONENT-385;COMPONENT-386;COMPONENT-387;COMPONENT-388;COMPONENT-389;COMPONENT-390",
     "COMPONENT-391;COMPONENT-392;COMPONENT-393;COMPONENT-394;COMPONENT-395;COMPONENT-396",
     "COMPONENT-397;COMPONENT-398;COMPONENT-399;COMPONENT-400;COMPONENT-401;COMPONENT-402",
     "COMPONENT-403;COMPONENT-404;COMPONENT-405;COMPONENT-406;COMPONENT-407;COMPONENT-408",
     "COMPONENT-409;COMPONENT-410;COMPONENT-411;COMPONENT-412;COMPONENT-413;COMPONENT-414",
     "COMPONENT-415;COMPONENT-416;COMPONENT-417;COMPONENT-418;COMPONENT-419;COMPONENT-420",
     "COMPONENT-421;COMPONENT-422;COMPONENT-423;COMPONENT-424;COMPONENT-425;COMPONENT-426",
     "COMPONENT-427;COMPONENT-428;COMPONENT-429;COMPONENT-430;COMPONENT-431;COMPONENT-432",
     "COMPONENT-433;COMPONENT-434;COMPONENT-435;COMPONENT-436;COMPONENT-437;COMPONENT-438",
     "COMPONENT-439;COMPONENT-440;COMPONENT-441;COMPONENT-442;COMPONENT-443;COMPONENT-444",
     "COMPONENT-445;COMPONENT-446;COMPONENT-447;COMPONENT-448;COMPONENT-449;COMPONENT-450",
     "COMPONENT-451;COMPONENT-452;COMPONENT-453;COMPONENT-454;COMPONENT-455;COMPONENT-456",
     "COMPONENT-457;COMPONENT-458;COMPONENT-459;COMPONENT-460;COMPONENT-461;COMPONENT-462",
     "COMPONENT-463;COMPONENT-464;COMPONENT-465;COMPONENT-466;COMPONENT-467;COMPONENT-468",
     "COMPONENT-469;COMPONENT-470;COMPONENT-471;COMPONENT-472;COMPONENT-473;COMPONENT-474",
     "COMPONENT-475;COMPONENT-476;COMPONENT-477"]⟩,
   ⟨0x189dd, "TANGUT ",
    ["COMPONENT-478;COMPONENT-479;COMPONENT-480;COMPONENT-481;COMPONENT-482;COMPONENT-483",
     "COMPONENT-484;COMPONENT-485;COMPONENT-486;COMPONENT-487;COMPONENT-488;COMPONENT-489",
     "COMPONENT-490;COMPONENT-491;COMPONENT-492;COMPONENT-493;COMPONENT-494;COMPONENT-495",
     "COMPONENT-496;COMPONENT-497;COMPONENT-498;COMPONENT-499;COMPONENT-500;COMPONENT-501",
     "COMPONENT-502;COMPONENT-503;COMPONENT-504;COMPONENT-505;COMPONENT-506;COMPONENT-507",
     "COMPONENT-508;COMPONENT-509;COMPONENT-510;COMPONENT-511;COMPONENT-512;COMPONENT-513",
     "COMPONENT-514;COMPONENT-515;COMPONENT-516;COMPONENT-517;COMPONENT-518;COMPONENT-519",
     "COMPONENT-520;COMPONENT-521;COMPONENT-522;COMPONENT-523;COMPONENT-524;COMPONENT-525",
     "COMPONENT-526;COMPONENT-527;COMPONENT-528;COMPONENT-529;COMPONENT-530;COMPONENT-531",
     "COMPONENT-532;COMPONENT-533;COMPONENT-534;COMPONENT-535;COMPONENT-536;COMPONENT-537",
     "COMPONENT-538;COMPONENT-539;COMPONENT-540;COMPONENT-541;COMPONENT-542;COMPONENT-543",
     "COMPONENT-544;COMPONENT-545;COMPONENT-546;COMPONENT-547;COMPONENT-548;COMPONENT-549",
     "COMPONENT-550;COMPONENT-551;COMPONENT-552;COMPONENT-553;COMPONENT-554;COMPONENT-555",
     "COMPONENT-556;COMPONENT-557;COMPONENT-558;COMPONENT-559;COMPONENT-560;COMPONENT-561",
     "COMPONENT-562;COMPONENT-563;COMPONENT-564;COMPONENT-565;COMPONENT-566;COMPONENT-567",
     "COMPONENT-568;COMPONENT-569;COMPONENT-570;COMPONENT-571;COMPONENT-572;COMPONENT-573",
     "COMPONENT-574;COMPONENT-575;COMPONENT-576;COMPONENT-577;COMPONENT-578;COMPONENT-579",
     "COMPONENT-580;COMPONENT-581;COMPONENT-582;COMPONENT-583;COMPONENT-584;COMPONENT-585",
     "COMPONENT-586;COMPONENT-587;COMPONENT-588;COMPONENT-589;COMPONENT-590;COMPONENT-591",
     "COMPONENT-592;COMPONENT-593;COMPONENT-594;COMPONENT-595;COMPONENT-596;COMPONENT-597",
     "COMPONENT-598;COMPONENT-599;COMPONENT-600;COMPONENT-601;COMPONENT-602;COMPONENT-603",
     "COMPONENT-604;COMPONENT-605;COMPONENT-606;COMPONENT-607;COMPONENT-608;COMPONENT-609",
     "COMPONENT-610;COMPONENT-611;COMPONENT-612;COMPONENT-613;COMPONENT-614;COMPONENT-615",
     "COMPONENT-616;COMPONENT-617;COMPONENT-618;COMPONENT-619;COMPONENT-620;COMPONENT-621",
     "COMPONENT-622;COMPONENT-623;COMPONENT-624;COMPONENT-625;COMPONENT-626;COMPONENT-627",
     "COMPONENT-628;COMPONENT-629;COMPONENT-630;COMPONENT-631;COMPONENT-632;COMPONENT-633",
     "COMPONENT-634;COMPONENT-635;COMPONENT-636"]⟩,
   ⟨0x18a7c, "TANGUT ",
    ["COMPONENT-637;COMPONENT-638;COMPONENT-639;COMPONENT-640;COMPONENT-641;COMPONENT-642",
     "COMPONENT-643;COMPONENT-644;COMPONENT-645;COMPONENT-646;COMPONENT-647;COMPONENT-648",
     "COMPONENT-649;COMPONENT-650;COMPONENT-651;COMPONENT-652;COMPONENT-653;COMPONENT-654",
     "COMPONENT-655;COMPONENT-656;COMPONENT-657;COMPONENT-658;COMPONENT-659;COMPONENT-660",
     "COMPONENT-661;COMPONENT-662;COMPONENT-663;COMPONENT-664;COMPONENT-665;COMPONENT-666",
     "COMPONENT-667;COMPONENT-668;COMPONENT-669;COMPONENT-670;COMPONENT-671;COMPONENT-672",
     "COMPONENT-673;COMPONENT-674;COMPONENT-675;COMPONENT-676;COMPONENT-677;COMPONENT-678",
     "COMPONENT-679;COMPONENT-680;COMPONENT-681;COMPONENT-682;COMPONENT-683;COMPONENT-684",
     "COMPONENT-685;COMPONENT-686;COMPONENT-687;COMPONENT-688;COMPONENT-689;COMPONENT-690",
     "COMPONENT-691;COMPONENT-692;COMPONENT-693;COMPONENT-694;COMPONENT-695;COMPONENT-696",
     "COMPONENT-697;COMPONENT-698;COMPONENT-699;COMPONENT-700;COMPONENT-701;COMPONENT-702",
     "COMPONENT-703;COMPONENT-704;COMPONENT-705;COMPONENT-706;COMPONENT-707;COMPONENT-708",
     "COMPONENT-709;COMPONENT-710;COMPONENT-711;COMPONENT-712;COMPONENT-713;COMPONENT-714",
     "COMPONENT-715;COMPONENT-716;COMPONENT-717;COMPONENT-718;COMPONENT-719;COMPONENT-720",
     "COMPONENT-721;COMPONENT-722;COMPONENT-723;COMPONENT-724;COMPONENT-725;COMPONENT-726",
     "COMPONENT-727;COMPONENT-728;COMPONENT-729;COMPONENT-730;COMPONENT-731;COMPONENT-732",
     "COMPONENT-733;COMPONENT-734;COMPONENT-735;COMPONENT-736;COMPONENT-737;COMPONENT-738",
     "COMPONENT-739;COMPONENT-740;COMPONENT-741;COMPONENT-742;COMPONENT-743;COMPONENT-744",
     "COMPONENT-745;COMPONENT-746;COMPONENT-747;COMPONENT-748;COMPONENT-749;COMPONENT-750",
     "COMPONENT-751;COMPONENT-752;COMPONENT-753;COMPONENT-754;COMPONENT-755;COMPONENT-756",
     "COMPONENT-757;COMPONENT-758;COMPONENT-759;COMPONENT-760;COMPONENT-761;COMPONENT-762",
     "COMPONENT-763;COMPONENT-764;COMPONENT-765;COMPONENT-766;COMPONENT-767;COMPONENT-768"]⟩,
   ⟨0x1aff0, "KATAKANA LETTER MINNAN ", ["TONE-2;TONE-3;TONE-4;TONE-5"]⟩,
   ⟨0x1aff5, "KATAKANA LETTER MINNAN ",
    ["TONE-7;TONE-8;NASALIZED TONE-1;NASALIZED TONE-2;NASALIZED TONE-3;NASALIZED TONE-4",
     "NASALIZED TONE-5"]⟩,
   ⟨0x1affd, "KATAKANA LETTER MINNAN NASALIZED ", ["TONE-7;TONE-8"]⟩,
   ⟨0x1b000, "", ["KATAKANA LETTER ARCHAIC E;HIRAGANA LETTER ARCHAIC YE"]⟩,
   ⟨0x1b002, "HENTAIGANA LETTER ",
    ["A-1;A-2;A-3;A-WO;I-1;I-2;I-3;I-4;U-1;U-2;U-3;U-4;U-5;E-2;E-3;E-4;E-5;E-6;O-1;O-2;O-3;KA-1",
     "KA-2;KA-3;KA-4;KA-5;KA-6;KA-7;KA-8;KA-9;KA-10;KA-11;KA-KE;KI-1;KI-2;KI-3;KI-4;KI-5;KI-6;KI-7",
     "KI-8;KU-1;KU-2;KU-3;KU-4;KU-5;KU-6;KU-7;KE-1;KE-2;KE-3;KE-4;KE-5;KE-6;KO-1;KO-2;KO-3;KO-KI",
     "SA-1;SA-2;SA-3;SA-4;SA-5;SA-6;SA-7;SA-8;SI-1;SI-2;SI-3;SI-4;SI-5;SI-6;SU-1;SU-2;SU-3;SU-4",
     "SU-5;SU-6;SU-7;SU-8;SE-1;SE-2;SE-3;SE-4;SE-5;SO-1;SO-2;SO-3;SO-4;SO-5;SO-6;SO-7;TA-1;TA-2",
     "TA-3;TA-4;TI-1;TI-2;TI-3;TI-4;TI-5;TI-6;TI-7;TU-1;TU-2;TU-3;TU-4;TU-TO;TE-1;TE-2;TE-3;TE-4",
     "TE-5;TE-6;TE-7;TE-8;TE-9;TO-1;TO-2;TO-3;TO-4;TO-5;TO-6;TO-RA;NA-1;NA-2;NA-3;NA-4;NA-5;NA-6",
     "NA-7;NA-8;NA-9;NI-1;NI-2;NI-3;NI-4;NI-5;NI-6;NI-7;NI-TE;NU-1;NU-2;NU-3;NE-1;NE-2;NE-3;NE-4",
     "NE-5;NE-6;NE-KO;NO-1;NO-2;NO-3;NO-4;NO-5;HA-1;HA-2;HA-3"]⟩,
   ⟨0x1b0a1, "HENTAIGANA LETTER ",
    ["HA-4;HA-5;HA-6;HA-7;HA-8;HA-9;HA-10;HA-11;HI-1;HI-2;HI-3;HI-4;HI-5;HI-6;HI-7;HU-1;HU-2;HU-3",
     "HE-1;HE-2;HE-3;HE-4;HE-5;HE-6;HE-7;HO-1;HO-2;HO-3;HO-4;HO-5;HO-6;HO-7;HO-8;MA-1;MA-2;MA-3",
     "MA-4;MA-5;MA-6;MA-7;MI-1;MI-2;MI-3;MI-4;MI-5;MI-6;MI-7;MU-1;MU-2;MU-3;MU-4;ME-1;ME-2;ME-MA",
     "MO-1;MO-2;MO-3;MO-4;MO-5;MO-6;YA-1;YA-2;YA-3;YA-4;YA-5;YA-YO;YU-1;YU-2;YU-3;YU-4;YO-1;YO-2",
     "YO-3;YO-4;YO-5;YO-6;RA-1;RA-2;RA-3;RA-4;RI-1;RI-2;RI-3;RI-4;RI-5;RI-6;RI-7;RU-1;RU-2;RU-3",
     "RU-4;RU-5;RU-6;RE-1;RE-2;RE-3;RE-4;RO-1;RO-2;RO-3;RO-4;RO-5;RO-6;WA-1;WA-2;WA-3;WA-4;WA-5",
     "WI-1;WI-2;WI-3;WI-4;WI-5;WE-1;WE-2;WE-3;WE-4;WO-1;WO-2;WO-3;WO-4;WO-5;WO-6;WO-7;N-MU-MO-1",
     "N-MU-MO-2"]⟩,
   ⟨0x1b11f, "", ["HIRAGANA LETTER ARCHAIC WU"]⟩,
   ⟨0x1b120, "KATAKANA LETTER ARCHAIC ", ["YI;YE;WU"]⟩,
   ⟨0x1b150, "HIRAGANA LETTER SMALL ", ["WI;WE;WO"]⟩,
   ⟨0x1b164, "KATAKANA LETTER SMALL ", ["WI;WE;WO;N"]⟩,
   ⟨0x1bc00, "DUPLOYAN LETTER ",
    ["H;X;P;T;F;K;L;B;D;V;G;R;P N;D S;F N;K M;R S;TH;SLOAN DH;DH;KK;SLOAN J;HL;LH;RH;M;N;J;S;M N",
     "N M;J M;S J;M WITH DOT;N WITH DOT;J WITH DOT;J WITH DOTS INSIDE AND ABOVE;S WITH DOT",
     "S WITH DOT BELOW;M S;N S;J S;S S;M N S;N M S;J M S;S J S;J S WITH DOT;J N;J N S;S T;S T R",
     "S P;S P R;T S;T R S;W;WH;W R;S N;S M;K R S;G R S;S K;S K R;A;SLOAN OW;OA;O;AOU;I;E;IE",
     "SHORT I;UI;EE;SLOAN EH;ROMANIAN I;SLOAN EE;LONG I;YE;U;EU;XW;U N;LONG U;ROMANIAN U;UH",
     "SLOAN U;OOH;OW;OU;WA;WO;WI;WEI;WOW;NASAL U;NASAL O;NASAL I;NASAL A;PERNIN AN;PERNIN AM",
     "SLOAN EN;SLOAN AN;SLOAN ON;VOCALIC M"]⟩,
   ⟨0x1bc70, "DUPLOYAN AFFIX ",
    ["LEFT HORIZONTAL SECANT;MID HORIZONTAL SECANT;RIGHT HORIZONTAL SECANT;LOW VERTICAL SECANT",
     "MID VERTICAL SECANT;HIGH VERTICAL SECANT"]⟩,
   ⟨0x1bc76, "DUPLOYAN AFFIX ATTACHED ",
    ["SECANT;LEFT-TO-RIGHT SECANT;TANGENT;TAIL;E HOOK;I HOOK;TANGENT HOOK"]⟩,
   ⟨0x1bc80, "DUPLOYAN AFFIX HIGH ",
    ["ACUTE;TIGHT ACUTE;GRAVE;LONG GRAVE;DOT;CIRCLE;LINE;WAVE;VERTICAL"]⟩,
   ⟨0x1bc90, "DUPLOYAN AFFIX LOW ",
    ["ACUTE;TIGHT ACUTE;GRAVE;LONG GRAVE;DOT;CIRCLE;LINE;WAVE;VERTICAL;ARROW"]⟩,
   ⟨0x1bc9c, "DUPLOYAN ",
    ["SIGN O WITH CROSS;THICK LETTER SELECTOR;DOUBLE MARK;PUNCTUATION CHINOOK FULL STOP"]⟩,
   ⟨0x1bca0, "SHORTHAND FORMAT ", ["LETTER OVERLAP;CONTINUING OVERLAP;DOWN STEP;UP STEP"]⟩,
   ⟨0x1cf00, "ZNAMENNY COMBINING MARK ",
    ["GORAZDO NIZKO S KRYZHEM ON LEFT;NIZKO S KRYZHEM ON LEFT;TSATA ON LEFT;GORAZDO NIZKO ON LEFT",
     "NIZKO ON LEFT;SREDNE ON LEFT;MALO POVYSHE ON LEFT;POVYSHE ON LEFT;VYSOKO ON LEFT",
     "MALO POVYSHE S KHOKHLOM ON LEFT;POVYSHE S KHOKHLOM ON LEFT;VYSOKO S KHOKHLOM ON LEFT",
     "GORAZDO NIZKO S KRYZHEM ON RIGHT;NIZKO S KRYZHEM ON RIGHT;TSATA ON RIGHT",
     "GORAZDO NIZKO ON RIGHT;NIZKO ON RIGHT;SREDNE ON RIGHT;MALO POVYSHE ON RIGHT;POVYSHE ON RIGHT",
     "VYSOKO ON RIGHT;MALO POVYSHE S KHOKHLOM ON RIGHT;POVYSHE S KHOKHLOM ON RIGHT",
     "VYSOKO S KHOKHLOM ON RIGHT;TSATA S KRYZHEM;MALO POVYSHE S KRYZHEM;STRANNO MALO POVYSHE",
     "POVYSHE S KRYZHEM;POVYSHE STRANNO;VYSOKO S KRYZHEM;MALO POVYSHE STRANNO;GORAZDO VYSOKO;ZELO",
     "ON;RAVNO;TIKHAYA;BORZAYA;UDARKA;PODVERTKA;LOMKA;KUPNAYA;KACHKA;ZEVOK;SKOBA;RAZSEKA",
     "KRYZH ON LEFT"]⟩,
   ⟨0x1cf30, "ZNAMENNY COMBINING ",
    ["TONAL RANGE MARK MRACHNO;TONAL RANGE MARK SVETLO;TONAL RANGE MARK TRESVETLO;MARK ZADERZHKA",
     "MARK DEMESTVENNY ZADERZHKA;MARK OTSECHKA;MARK PODCHASHIE",
     "MARK PODCHASHIE WITH VERTICAL STROKE;MARK CHASHKA;MARK CHASHKA POLNAYA;MARK OBLACHKO",
     "MARK SOROCHYA NOZHKA;MARK TOCHKA;MARK DVOETOCHIE;ATTACHING VERTICAL OMET;MARK CURVED OMET",
     "MARK KRYZH;LOWER TONAL RANGE INDICATOR"]⟩,
   ⟨0x1cf42, "ZNAMENNY PRIZNAK MODIFIER ", ["LEVEL-2;LEVEL-3;DIRECTION FLIP;KRYZH;ROG"]⟩,
   ⟨0x1cf50, "ZNAMENNY NEUME ",
    ["KRYUK;KRYUK TIKHY;PARAKLIT;DVA V CHELNU;KLYUCH;ZANOZHEK;STOPITSA;STOPITSA S OCHKOM;PEREVODKA",
     "PEREVODKA NEPOSTOYANNAYA;STOPITSA WITH SOROCHYA NOZHKA;CHELYUSTKA;PALKA;ZAPYATAYA",
     "GOLUBCHIK BORZY;GOLUBCHIK TIKHY;GOLUBCHIK MRACHNY;GOLUBCHIK SVETLY;GOLUBCHIK TRESVETLY",
     "VRAKHIYA PROSTAYA;VRAKHIYA MRACHNAYA;VRAKHIYA SVETLAYA;VRAKHIYA TRESVETLAYA",
     "VRAKHIYA KLYUCHEVAYA PROSTAYA;VRAKHIYA KLYUCHEVAYA MRACHNAYA;VRAKHIYA KLYUCHEVAYA SVETLAYA",
     "VRAKHIYA KLYUCHEVAYA TRESVETLAYA;DOUBLE ZAPYATAYA;REVERSED CHELYUSTKA;DERBITSA;KHAMILO",
     "CHASHKA;PODCHASHIE;SKAMEYTSA MRACHNAYA;SKAMEYTSA SVETLAYA;SKAMEYTSA TRESVETLAYA",
     "SKAMEYTSA TIKHAYA;DEMESTVENNY KLYUCH;SKAMEYTSA KLYUCHEVAYA SVETLAYA",
     "SKAMEYTSA KLYUCHENEPOSTOYANNAYA;SKAMEYTSA KLYUCHEVAYA TIKHAYA",
     "SKAMEYTSA DVOECHELNAYA PROSTAYA;SKAMEYTSA DVOECHELNAYA SVETLAYA",
     "SKAMEYTSA DVOECHELNAYA NEPOSTOYANNAYA;SKAMEYTSA DVOECHELNAYA KLYUCHEVAYA;SLOZHITIE",
     "SLOZHITIE S ZAPYATOY;SLOZHITIE ZAKRYTOE;SLOZHITIE S KRYZHEM;KRYZH;ROG;FITA;KOBYLA;ZMEYTSA",
     "STATYA;STATYA S ZAPYATOY;STATYA S KRYZHEM;STATYA S ZAPYATOY I KRYZHEM",
     "STATYA S KRYZHEM I ZAPYATOY;STATYA ZAKRYTAYA;STATYA ZAKRYTAYA S ZAPYATOY;STATYA S ROGOM",
     "STATYA S DVUMYA ZAPYATYMI;STATYA S ZAPYATOY I PODCHASHIEM;POLKULIZMY;STATYA NEPOSTOYANNAYA"]⟩,
   ⟨0x1cf92, "ZNAMENNY NEUME STRELA ",
    ["PROSTAYA;MRACHNOTIKHAYA;KRYZHEVAYA;POLUPOVODNAYA;POVODNAYA;NEPOSTOYANNAYA;KLYUCHEPOVODNAYA",
     "KLYUCHENEPOSTOYANNAYA;TIKHAYA PUTNAYA;DVOECHELNAYA;DVOECHELNOKRYZHEVAYA;DVOECHELNOPOVODNAYA",
     "DVOECHELNAYA KLYUCHEVAYA;DVOECHELNOPOVODNAYA KLYUCHEVAYA;GROMNAYA WITH SINGLE ZAPYATAYA",
     "GROMOPOVODNAYA WITH SINGLE ZAPYATAYA;GROMNAYA;GROMOPOVODNAYA",
     "GROMOPOVODNAYA WITH DOUBLE ZAPYATAYA;GROMOKRYZHEVAYA;GROMOKRYZHEVAYA POVODNAYA"]⟩,
   ⟨0x1cfa7, "ZNAMENNY NEUME ",
    ["MECHIK;MECHIK POVODNY;MECHIK KLYUCHEVOY;MECHIK KLYUCHEPOVODNY;MECHIK KLYUCHENEPOSTOYANNY",
     "STRELA TRYASOGLASNAYA;STRELA TRYASOPOVODNAYA;STRELA TRYASOSTRELNAYA;OSOKA;OSOKA SVETLAYA",
     "OSOKA TRESVETLAYA;OSOKA KRYUKOVAYA SVETLAYA;OSOKA KLYUCHEVAYA SVETLAYA",
     "OSOKA KLYUCHEVAYA NEPOSTOYANNAYA;STRELA KRYUKOVAYA"]⟩,
   ⟨0x1cfb6, "ZNAMENNY NEUME STRELA KRYUKOVAYA ",
    ["POVODNAYA;GROMNAYA WITH SINGLE ZAPYATAYA;GROMOPOVODNAYA WITH SINGLE ZAPYATAYA;GROMNAYA",
     "GROMOPOVODNAYA;GROMOPOVODNAYA WITH DOUBLE ZAPYATAYA;GROMOKRYZHEVAYA",
     "GROMOKRYZHEVAYA POVODNAYA;TRYASKA"]⟩,
   ⟨0x1cfbf, "ZNAMENNY NEUME ", ["KUFISMA;OBLAKO;DUDA;NEMKA;PAUK"]⟩,
   ⟨0x1d000, "BYZANTINE MUSICAL SYMBOL ",
    ["PSILI;DASEIA;PERISPOMENI;OXEIA EKFONITIKON;OXEIA DIPLI;VAREIA EKFONITIKON;VAREIA DIPLI",
     "KATHISTI;SYRMATIKI;PARAKLITIKI;YPOKRISIS;YPOKRISIS DIPLI;KREMASTI;APESO EKFONITIKON",
     "EXO EKFONITIKON;TELEIA;KENTIMATA;APOSTROFOS;APOSTROFOS DIPLI;SYNEVMA;THITA;OLIGON ARCHAION",
     "GORGON ARCHAION;PSILON;CHAMILON;VATHY;ISON ARCHAION;KENTIMA ARCHAION;KENTIMATA ARCHAION",
     "SAXIMATA;PARICHON;STAVROS APODEXIA;OXEIAI ARCHAION;VAREIAI ARCHAION;APODERMA ARCHAION",
     "APOTHEMA;KLASMA;REVMA;PIASMA ARCHAION;TINAGMA;ANATRICHISMA;SEISMA;SYNAGMA ARCHAION",
     "SYNAGMA META STAVROU;OYRANISMA ARCHAION;THEMA;LEMOI;DYO;TRIA;TESSERA;KRATIMATA;APESO EXO NEO",
     "FTHORA ARCHAION;IMIFTHORA;TROMIKON ARCHAION;KATAVA TROMIKON;PELASTON;PSIFISTON;KONTEVMA",
     "CHOREVMA ARCHAION;RAPISMA;PARAKALESMA ARCHAION;PARAKLITIKI ARCHAION;ICHADIN;NANA;PETASMA",
     "KONTEVMA ALLO;TROMIKON ALLO;STRAGGISMATA;GRONTHISMATA;ISON NEO;OLIGON NEO;OXEIA NEO;PETASTI",
     "KOUFISMA;PETASTOKOUFISMA;KRATIMOKOUFISMA;PELASTON NEO;KENTIMATA NEO ANO;KENTIMA NEO ANO",
     "YPSILI;APOSTROFOS NEO;APOSTROFOI SYNDESMOS NEO;YPORROI;KRATIMOYPORROON;ELAFRON;CHAMILI",
     "MIKRON ISON;VAREIA NEO;PIASMA NEO;PSIFISTON NEO;OMALON;ANTIKENOMA;LYGISMA;PARAKLITIKI NEO",
     "PARAKALESMA NEO;ETERON PARAKALESMA;KYLISMA;ANTIKENOKYLISMA;TROMIKON NEO;EKSTREPTON",
     "SYNAGMA NEO;SYRMA;CHOREVMA NEO;EPEGERMA;SEISMA NEO;XIRON KLASMA;TROMIKOPSIFISTON",
     "PSIFISTOLYGISMA;TROMIKOLYGISMA;TROMIKOPARAKALESMA;PSIFISTOPARAKALESMA;TROMIKOSYNAGMA",
     "PSIFISTOSYNAGMA;GORGOSYNTHETON;ARGOSYNTHETON;ETERON ARGOSYNTHETON;OYRANISMA NEO",
     "THEMATISMOS ESO;THEMATISMOS EXO;THEMA APLOUN;THES KAI APOTHES;KATAVASMA;ENDOFONON;YFEN KATO",
     "YFEN ANO;STAVROS;KLASMA ANO;DIPLI ARCHAION;KRATIMA ARCHAION;KRATIMA ALLO;KRATIMA NEO",
     "APODERMA NEO;APLI;DIPLI;TRIPLI;TETRAPLI;KORONIS;LEIMMA ENOS CHRONOU;LEIMMA DYO CHRONON",
     "LEIMMA TRION CHRONON;LEIMMA TESSARON CHRONON;LEIMMA IMISEOS CHRONOU;GORGON NEO ANO",
     "GORGON PARESTIGMENON ARISTERA;GORGON PARESTIGMENON DEXIA;DIGORGON",
     "DIGORGON PARESTIGMENON ARISTERA KATO;DIGORGON PARESTIGMENON ARISTERA ANO",
     "DIGORGON PARESTIGMENON DEXIA;TRIGORGON;ARGON;IMIDIARGON;DIARGON"]⟩,
   ⟨0x1d09a, "BYZANTINE MUSICAL SYMBOL AGOGI ",
    ["POLI ARGI;ARGOTERI;ARGI;METRIA;MESI;GORGI;GORGOTERI;POLI GORGI"]⟩,
   ⟨0x1d0a2, "BYZANTINE MUSICAL SYMBOL MARTYRIA ",
    ["PROTOS ICHOS;ALLI PROTOS ICHOS;DEYTEROS ICHOS;ALLI DEYTEROS ICHOS;TRITOS ICHOS;TRIFONIAS",
     "TETARTOS ICHOS;TETARTOS LEGETOS ICHOS;LEGETOS ICHOS;PLAGIOS ICHOS"]⟩,
   ⟨0x1d0ac, "BYZANTINE MUSICAL SYMBOL ",
    ["ISAKIA TELOUS ICHIMATOS;APOSTROFOI TELOUS ICHIMATOS;FANEROSIS TETRAFONIAS",
     "FANEROSIS MONOFONIAS;FANEROSIS DIFONIAS;MARTYRIA VARYS ICHOS;MARTYRIA PROTOVARYS ICHOS",
     "MARTYRIA PLAGIOS TETARTOS ICHOS;GORTHMIKON N APLOUN;GORTHMIKON N DIPLOUN",
     "ENARXIS KAI FTHORA VOU;IMIFONON;IMIFTHORON;FTHORA ARCHAION DEYTEROU ICHOU",
     "FTHORA DIATONIKI PA;FTHORA DIATONIKI NANA;FTHORA NAOS ICHOS;FTHORA DIATONIKI DI",
     "FTHORA SKLIRON DIATONON DI;FTHORA DIATONIKI KE;FTHORA DIATONIKI ZO;FTHORA DIATONIKI NI KATO",
     "FTHORA DIATONIKI NI ANO;FTHORA MALAKON CHROMA DIFONIAS;FTHORA MALAKON CHROMA MONOFONIAS",
     "FHTORA SKLIRON CHROMA VASIS;FTHORA SKLIRON CHROMA SYNAFI;FTHORA NENANO;CHROA ZYGOS",
     "CHROA KLITON;CHROA SPATHI;FTHORA I YFESIS TETARTIMORION;FTHORA ENARMONIOS ANTIFONIA",
     "YFESIS TRITIMORION;DIESIS TRITIMORION;DIESIS TETARTIMORION;DIESIS APLI DYO DODEKATA",
     "DIESIS MONOGRAMMOS TESSERA DODEKATA;DIESIS DIGRAMMOS EX DODEKATA",
     "DIESIS TRIGRAMMOS OKTO DODEKATA;YFESIS APLI DYO DODEKATA;YFESIS MONOGRAMMOS TESSERA DODEKATA",
     "YFESIS DIGRAMMOS EX DODEKATA;YFESIS TRIGRAMMOS OKTO DODEKATA;GENIKI DIESIS;GENIKI YFESIS",
     "DIASTOLI APLI MIKRI;DIASTOLI APLI MEGALI;DIASTOLI DIPLI;DIASTOLI THESEOS;SIMANSIS THESEOS",
     "SIMANSIS THESEOS DISIMOU;SIMANSIS THESEOS TRISIMOU;SIMANSIS THESEOS TETRASIMOU",
     "SIMANSIS ARSEOS;SIMANSIS ARSEOS DISIMOU;SIMANSIS ARSEOS TRISIMOU;SIMANSIS ARSEOS TETRASIMOU",
     "DIGRAMMA GG;DIFTOGGOS OU;STIGMA;ARKTIKO PA;ARKTIKO VOU;ARKTIKO GA;ARKTIKO DI;ARKTIKO KE",
     "ARKTIKO ZO;ARKTIKO NI;KENTIMATA NEO MESO;KENTIMA NEO MESO;KENTIMATA NEO KATO",
     "KENTIMA NEO KATO;KLASMA KATO;GORGON NEO KATO"]⟩,
   ⟨0x1d100, "MUSICAL SYMBOL ",
    ["SINGLE BARLINE;DOUBLE BARLINE;FINAL BARLINE;REVERSE FINAL BARLINE;DASHED BARLINE",
     "SHORT BARLINE;LEFT REPEAT SIGN;RIGHT REPEAT SIGN;REPEAT DOTS;DAL SEGNO;DA CAPO;SEGNO;CODA",
     "REPEATED FIGURE-1;REPEATED FIGURE-2;REPEATED FIGURE-3;FERMATA;FERMATA BELOW;BREATH MARK",
     "CAESURA;BRACE;BRACKET;ONE-LINE STAFF;TWO-LINE STAFF;THREE-LINE STAFF;FOUR-LINE STAFF",
     "FIVE-LINE STAFF;SIX-LINE STAFF;SIX-STRING FRETBOARD;FOUR-STRING FRETBOARD;G CLEF",
     "G CLEF OTTAVA ALTA;G CLEF OTTAVA BASSA;C CLEF;F CLEF;F CLEF OTTAVA ALTA;F CLEF OTTAVA BASSA",
     "DRUM CLEF-1;DRUM CLEF-2"]⟩,
   ⟨0x1d129, "MUSICAL SYMBOL ",
    ["MULTIPLE MEASURE REST;DOUBLE SHARP;DOUBLE FLAT;FLAT UP;FLAT DOWN;NATURAL UP;NATURAL DOWN",
     "SHARP UP;SHARP DOWN;QUARTER TONE SHARP;QUARTER TONE FLAT;COMMON TIME;CUT TIME;OTTAVA ALTA",
     "OTTAVA BASSA;QUINDICESIMA ALTA;QUINDICESIMA BASSA;MULTI REST;WHOLE REST;HALF REST",
     "QUARTER REST;EIGHTH REST;SIXTEENTH REST;THIRTY-SECOND REST;SIXTY-FOURTH REST",
     "ONE HUNDRED TWENTY-EIGHTH REST;X NOTEHEAD;PLUS NOTEHEAD;CIRCLE X NOTEHEAD",
     "SQUARE NOTEHEAD WHITE;SQUARE NOTEHEAD BLACK"]⟩,
   ⟨0x1d148, "MUSICAL SYMBOL TRIANGLE NOTEHEAD ",
    ["UP WHITE;UP BLACK;LEFT WHITE;LEFT BLACK;RIGHT WHITE;RIGHT BLACK;DOWN WHITE;DOWN BLACK",
     "UP RIGHT WHITE;UP RIGHT BLACK"]⟩,
   ⟨0x1d152, "MUSICAL SYMBOL ",
    ["MOON NOTEHEAD WHITE;MOON NOTEHEAD BLACK;TRIANGLE-ROUND NOTEHEAD DOWN WHITE",
     "TRIANGLE-ROUND NOTEHEAD DOWN BLACK;PARENTHESIS NOTEHEAD;VOID NOTEHEAD;NOTEHEAD BLACK",
     "NULL NOTEHEAD;CLUSTER NOTEHEAD WHITE;CLUSTER NOTEHEAD BLACK;BREVE;WHOLE NOTE;HALF NOTE",
     "QUARTER NOTE;EIGHTH NOTE;SIXTEENTH NOTE;THIRTY-SECOND NOTE;SIXTY-FOURTH NOTE",
     "ONE HUNDRED TWENTY-EIGHTH NOTE;COMBINING STEM;COMBINING SPRECHGESANG STEM",
     "COMBINING TREMOLO-1;COMBINING TREMOLO-2;COMBINING TREMOLO-3;FINGERED TREMOLO-1",
     "FINGERED TREMOLO-2;FINGERED TREMOLO-3;COMBINING AUGMENTATION DOT;COMBINING FLAG-1",
     "COMBINING FLAG-2;COMBINING FLAG-3;COMBINING FLAG-4;COMBINING FLAG-5;BEGIN BEAM;END BEAM",
     "BEGIN TIE;END TIE;BEGIN SLUR;END SLUR;BEGIN PHRASE;END PHRASE;COMBINING ACCENT",
     "COMBINING STACCATO;COMBINING TENUTO;COMBINING STACCATISSIMO;COMBINING MARCATO",
     "COMBINING MARCATO-STACCATO;COMBINING ACCENT-STACCATO;COMBINING LOURE;ARPEGGIATO UP",
     "ARPEGGIATO DOWN;COMBINING DOIT;COMBINING RIP;COMBINING FLIP;COMBINING SMEAR;COMBINING BEND",
     "COMBINING DOUBLE TONGUE;COMBINING TRIPLE TONGUE;RINFORZANDO;SUBITO;Z;PIANO;MEZZO;FORTE",
     "CRESCENDO;DECRESCENDO;GRACE NOTE SLASH;GRACE NOTE NO SLASH;TR;TURN;INVERTED TURN;TURN SLASH",
     "TURN UP"]⟩,
   ⟨0x1d19b, "MUSICAL SYMBOL ORNAMENT ",
    ["STROKE-1;STROKE-2;STROKE-3;STROKE-4;STROKE-5;STROKE-6;STROKE-7;STROKE-8;STROKE-9;STROKE-10",
     "STROKE-11"]⟩,
   ⟨0x1d1a6, "MUSICAL SYMBOL ",
    ["HAUPTSTIMME;NEBENSTIMME;END OF STIMME;DEGREE SLASH;COMBINING DOWN BOW;COMBINING UP BOW",
     "COMBINING HARMONIC;COMBINING SNAP PIZZICATO;PEDAL MARK;PEDAL UP MARK;HALF PEDAL MARK",
     "GLISSANDO UP;GLISSANDO DOWN;WITH FINGERNAILS;DAMP;DAMP ALL;MAXIMA;LONGA;BREVIS",
     "SEMIBREVIS WHITE;SEMIBREVIS BLACK;MINIMA;MINIMA BLACK;SEMIMINIMA WHITE;SEMIMINIMA BLACK",
     "FUSA WHITE;FUSA BLACK;LONGA PERFECTA REST;LONGA IMPERFECTA REST;BREVIS REST;SEMIBREVIS REST",
     "MINIMA REST;SEMIMINIMA REST"]⟩,
   ⟨0x1d1c7, "MUSICAL SYMBOL TEMPUS PERFECTUM CUM PROLATIONE ",
    ["PERFECTA;IMPERFECTA;PERFECTA DIMINUTION-1"]⟩,
   ⟨0x1d1ca, "MUSICAL SYMBOL TEMPUS IMPERFECTUM CUM PROLATIONE ",
    ["PERFECTA;IMPERFECTA;IMPERFECTA DIMINUTION-1;IMPERFECTA DIMINUTION-2;IMPERFECTA DIMINUTION-3"]⟩,
   ⟨0x1d1cf, "MUSICAL SYMBOL ",
    ["CROIX;GREGORIAN C CLEF;GREGORIAN F CLEF;SQUARE B;VIRGA;PODATUS;CLIVIS;SCANDICUS;CLIMACUS",
     "TORCULUS;PORRECTUS;PORRECTUS FLEXUS;SCANDICUS FLEXUS;TORCULUS RESUPINUS;PES SUBPUNCTIS",
     "KIEVAN C CLEF;KIEVAN END OF PIECE;KIEVAN FINAL NOTE;KIEVAN RECITATIVE MARK;KIEVAN WHOLE NOTE",
     "KIEVAN HALF NOTE;KIEVAN QUARTER NOTE STEM DOWN;KIEVAN QUARTER NOTE STEM UP",
     "KIEVAN EIGHTH NOTE STEM DOWN;KIEVAN EIGHTH NOTE STEM UP;KIEVAN FLAT SIGN;SORI;KORON"]⟩,
   ⟨0x1d200, "GREEK VOCAL NOTATION ",
    ["SYMBOL-1;SYMBOL-2;SYMBOL-3;SYMBOL-4;SYMBOL-5;SYMBOL-6;SYMBOL-7;SYMBOL-8;SYMBOL-9;SYMBOL-10",
     "SYMBOL-11;SYMBOL-12;SYMBOL-13;SYMBOL-14;SYMBOL-15;SYMBOL-16;SYMBOL-17;SYMBOL-18;SYMBOL-19",
     "SYMBOL-20;SYMBOL-21;SYMBOL-22;SYMBOL-23;SYMBOL-24;SYMBOL-50;SYMBOL-51;SYMBOL-52;SYMBOL-53",
     "SYMBOL-54"]⟩,
   ⟨0x1d21d, "GREEK INSTRUMENTAL NOTATION ",
    ["SYMBOL-1;SYMBOL-2;SYMBOL-4;SYMBOL-5;SYMBOL-7;SYMBOL-8;SYMBOL-11;SYMBOL-12;SYMBOL-13",
     "SYMBOL-14;SYMBOL-17;SYMBOL-18;SYMBOL-19;SYMBOL-23;SYMBOL-24;SYMBOL-25;SYMBOL-26;SYMBOL-27",
     "SYMBOL-29;SYMBOL-30;SYMBOL-32;SYMBOL-36;SYMBOL-37;SYMBOL-38;SYMBOL-39;SYMBOL-40;SYMBOL-42",
     "SYMBOL-43;SYMBOL-45;SYMBOL-47;SYMBOL-48;SYMBOL-49;SYMBOL-50;SYMBOL-51;SYMBOL-52;SYMBOL-53",
     "SYMBOL-54"]⟩,
   ⟨0x1d242, "COMBINING GREEK MUSICAL ", ["TRISEME;TETRASEME;PENTASEME"]⟩,
   ⟨0x1d245, "", ["GREEK MUSICAL LEIMMA"]⟩,
   ⟨0x1d2e0, "MAYAN NUMERAL ",
    ["ZERO;ONE;TWO;THREE;FOUR;FIVE;SIX;SEVEN;EIGHT;NINE;TEN;ELEVEN;TWELVE;THIRTEEN;FOURTEEN",
     "FIFTEEN;SIXTEEN;SEVENTEEN;EIGHTEEN;NINETEEN"]⟩,
   ⟨0x1d300, "", ["MONOGRAM FOR EARTH"]⟩,
   ⟨0x1d301, "DIGRAM FOR ", ["HEAVENLY EARTH;HUMAN EARTH;EARTHLY HEAVEN;EARTHLY HUMAN;EARTH"]⟩,
   ⟨0x1d306, "TETRAGRAM FOR ",
    ["CENTRE;FULL CIRCLE;MIRED;BARRIER;KEEPING SMALL;CONTRARIETY;ASCENT;OPPOSITION;BRANCHING OUT",
     "DEFECTIVENESS OR DISTORTION;DIVERGENCE;YOUTHFULNESS;INCREASE;PENETRATION;REACH;CONTACT",
     "HOLDING BACK;WAITING;FOLLOWING;ADVANCE;RELEASE;RESISTANCE;EASE;JOY;CONTENTION;ENDEAVOUR",
     "DUTIES;CHANGE;DECISIVENESS;BOLD RESOLUTION;PACKING;LEGION;CLOSENESS;KINSHIP;GATHERING",
     "STRENGTH;PURITY;FULLNESS;RESIDENCE;LAW OR MODEL;RESPONSE;GOING TO MEET;ENCOUNTERS;STOVE",
     "GREATNESS;ENLARGEMENT;PATTERN;RITUAL;FLIGHT;VASTNESS OR WASTING;CONSTANCY;MEASURE;ETERNITY",
     "UNITY;DIMINISHMENT;CLOSED MOUTH;GUARDEDNESS;GATHERING IN;MASSING;ACCUMULATION;EMBELLISHMENT",
     "DOUBT;WATCH;SINKING;INNER;DEPARTURE;DARKENING;DIMMING;EXHAUSTION;SEVERANCE;STOPPAGE;HARDNESS",
     "COMPLETION;CLOSURE;FAILURE;AGGRAVATION;COMPLIANCE;ON THE VERGE;DIFFICULTIES;LABOURING",
     "FOSTERING"]⟩,
   ⟨0x1d360, "COUNTING ROD UNIT DIGIT ", ["ONE;TWO;THREE;FOUR;FIVE;SIX;SEVEN;EIGHT;NINE"]⟩,
   ⟨0x1d369, "COUNTING ROD TENS DIGIT ", ["ONE;TWO;THREE;FOUR;FIVE;SIX;SEVEN;EIGHT;NINE"]⟩,
   ⟨0x1d372, "IDEOGRAPHIC TALLY MARK ", ["ONE;TWO;THREE;FOUR;FIVE"]⟩,
   ⟨0x1d377, "TALLY MARK ", ["ONE;FIVE"]⟩,
   ⟨0x1d400, "MATHEMATICAL BOLD CAPITAL ",
    ["A;B;C;D;E;F;G;H;I;J;K;L;M;N;O;P;Q;R;S;T;U;V;W;X;Y;Z"]⟩,
   ⟨0x1d41a, "MATHEMATICAL BOLD SMALL ",
    ["A;B;C;D;E;F;G;H;I;J;K;L;M;N;O;P;Q;R;S;T;U;V;W;X;Y;Z"]⟩,
   ⟨0x1d434, "MATHEMATICAL ITALIC CAPITAL ",
    ["A;B;C;D;E;F;G;H;I;J;K;L;M;N;O;P;Q;R;S;T;U;V;W;X;Y;Z"]⟩,
   ⟨0x1d44e, "MATHEMATICAL ITALIC SMALL ", ["A;B;C;D;E;F;G"]⟩,
   ⟨0x1d456, "MATHEMATICAL ITALIC SMALL ", ["I;J;K;L;M;N;O;P;Q;R;S;T;U;V;W;X;Y;Z"]⟩,
   ⟨0x1d468, "MATHEMATICAL BOLD ITALIC CAPITAL ",
    ["A;B;C;D;E;F;G;H;I;J;K;L;M;N;O;P;Q;R;S;T;U;V;W;X;Y;Z"]⟩,
   ⟨0x1d482, "MATHEMATICAL BOLD ITALIC SMALL ",
    ["A;B;C;D;E;F;G;H;I;J;K;L;M;N;O;P;Q;R;S;T;U;V;W;X;Y;Z"]⟩,
   ⟨0x1d49c, "", ["MATHEMATICAL SCRIPT CAPITAL A"]⟩,
   ⟨0x1d49e, "MATHEMATICAL SCRIPT CAPITAL ", ["C;D"]⟩,
   ⟨0x1d4a2, "", ["MATHEMATICAL SCRIPT CAPITAL G"]⟩,
   ⟨0x1d4a5, "MATHEMATICAL SCRIPT CAPITAL ", ["J;K"]⟩,
   ⟨0x1d4a9, "MATHEMATICAL SCRIPT CAPITAL ", ["N;O;P;Q"]⟩,
   ⟨0x1d4ae, "MATHEMATICAL SCRIPT CAPITAL ", ["S;T;U;V;W;X;Y;Z"]⟩,
   ⟨0x1d4b6, "MATHEMATICAL SCRIPT SMALL ", ["A;B;C;D"]⟩,
   ⟨0x1d4bb, "", ["MATHEMATICAL SCRIPT SMALL F"]⟩,
   ⟨0x1d4bd, "MATHEMATICAL SCRIPT SMALL ", ["H;I;J;K;L;M;N"]⟩,
   ⟨0x1d4c5, "MATHEMATICAL SCRIPT SMALL ", ["P;Q;R;S;T;U;V;W;X;Y;Z"]⟩,
   ⟨0x1d4d0, "MATHEMATICAL BOLD SCRIPT CAPITAL ",
    ["A;B;C;D;E;F;G;H;I;J;K;L;M;N;O;P;Q;R;S;T;U;V;W;X;Y;Z"]⟩,
   ⟨0x1d4ea, "MATHEMATICAL BOLD SCRIPT SMALL ",
    ["A;B;C;D;E;F;G;H;I;J;K;L;M;N;O;P;Q;R;S;T;U;V;W;X;Y;Z"]⟩,
   ⟨0x1d504, "MATHEMATICAL FRAKTUR CAPITAL ", ["A;B"]⟩,
   ⟨0x1d507, "MATHEMATICAL FRAKTUR CAPITAL ", ["D;E;F;G"]⟩,
   ⟨0x1d50d, "MATHEMATICAL FRAKTUR CAPITAL ", ["J;K;L;M;N;O;P;Q"]⟩,
   ⟨0x1d516, "MATHEMATICAL FRAKTUR CAPITAL ", ["S;T;U;V;W;X;Y"]⟩,
   ⟨0x1d51e, "MATHEMATICAL FRAKTUR SMALL ",
    ["A;B;C;D;E;F;G;H;I;J;K;L;M;N;O;P;Q;R;S;T;U;V;W;X;Y;Z"]⟩,
   ⟨0x1d538, "MATHEMATICAL DOUBLE-STRUCK CAPITAL ", ["A;B"]⟩,
   ⟨0x1d53b, "MATHEMATICAL DOUBLE-STRUCK CAPITAL ", ["D;E;F;G"]⟩,
   ⟨0x1d540, "MATHEMATICAL DOUBLE-STRUCK CAPITAL ", ["I;J;K;L;M"]⟩,
   ⟨0x1d546, "", ["MATHEMATICAL DOUBLE-STRUCK CAPITAL O"]⟩,
   ⟨0x1d54a, "MATHEMATICAL DOUBLE-STRUCK CAPITAL ", ["S;T;U;V;W;X;Y"]⟩,
   ⟨0x1d552, "MATHEMATICAL DOUBLE-STRUCK SMALL ",
    ["A;B;C;D;E;F;G;H;I;J;K;L;M;N;O;P;Q;R;S;T;U;V;W;X;Y;Z"]⟩,
   ⟨0x1d56c, "MATHEMATICAL BOLD FRAKTUR CAPITAL ",
    ["A;B;C;D;E;F;G;H;I;J;K;L;M;N;O;P;Q;R;S;T;U;V;W;X;Y;Z"]⟩,
   ⟨0x1d586, "MATHEMATICAL BOLD FRAKTUR SMALL ",
    ["A;B;C;D;E;F;G;H;I;J;K;L;M;N;O;P;Q;R;S;T;U;V;W;X;Y;Z"]⟩,
   ⟨0x1d5a0, "MATHEMATICAL SANS-SERIF CAPITAL ",
    ["A;B;C;D;E;F;G;H;I;J;K;L;M;N;O;P;Q;R;S;T;U;V;W;X;Y;Z"]⟩,
   ⟨0x1d5ba, "MATHEMATICAL SANS-SERIF SMALL ",
    ["A;B;C;D;E;F;G;H;I;J;K;L;M;N;O;P;Q;R;S;T;U;V;W;X;Y;Z"]⟩,
   ⟨0x1d5d4, "MATHEMATICAL SANS-SERIF BOLD CAPITAL ",
    ["A;B;C;D;E;F;G;H;I;J;K;L;M;N;O;P;Q;R;S;T;U;V;W;X;Y;Z"]⟩,
   ⟨0x1d5ee, "MATHEMATICAL SANS-SERIF BOLD SMALL ",
    ["A;B;C;D;E;F;G;H;I;J;K;L;M;N;O;P;Q;R;S;T;U;V;W;X;Y;Z"]⟩,
   ⟨0x1d608, "MATHEMATICAL SANS-SERIF ITALIC CAPITAL ",
    ["A;B;C;D;E;F;G;H;I;J;K;L;M;N;O;P;Q;R;S;T;U;V;W;X;Y;Z"]⟩,
   ⟨0x1d622, "MATHEMATICAL SANS-SERIF ITALIC SMALL ",
    ["A;B;C;D;E;F;G;H;I;J;K;L;M;N;O;P;Q;R;S;T;U;V;W;X;Y;Z"]⟩,
   ⟨0x1d63c, "MATHEMATICAL SANS-SERIF BOLD ITALIC CAPITAL ",
    ["A;B;C;D;E;F;G;H;I;J;K;L;M;N;O;P;Q;R;S;T;U;V;W;X;Y;Z"]⟩,
   ⟨0x1d656, "MATHEMATICAL SANS-SERIF BOLD ITALIC SMALL ",
    ["A;B;C;D;E;F;G;H;I;J;K;L;M;N;O;P;Q;R;S;T;U;V;W;X;Y;Z"]⟩,
   ⟨0x1d670, "MATHEMATICAL MONOSPACE CAPITAL ",
    ["A;B;C;D;E;F;G;H;I;J;K;L;M;N;O;P;Q;R;S;T;U;V;W;X;Y;Z"]⟩,
   ⟨0x1d68a, "MATHEMATICAL MONOSPACE SMALL ",
    ["A;B;C;D;E;F;G;H;I;J;K;L;M;N;O;P;Q;R;S;T;U;V;W;X;Y;Z"]⟩,
   ⟨0x1d6a4, "MATHEMATICAL ITALIC SMALL DOTLESS ", ["I;J"]⟩,
   ⟨0x1d6a8, "MATHEMATICAL BOLD CAPITAL ",
    ["ALPHA;BETA;GAMMA;DELTA;EPSILON;ZETA;ETA;THETA;IOTA;KAPPA;LAMDA;MU;NU;XI;OMICRON;PI;RHO",
     "THETA SYMBOL;SIGMA;TAU;UPSILON;PHI;CHI;PSI;OMEGA"]⟩,
   ⟨0x1d6c1, "", ["MATHEMATICAL BOLD NABLA"]⟩,
   ⟨0x1d6c2, "MATHEMATICAL BOLD SMALL ",
    ["ALPHA;BETA;GAMMA;DELTA;EPSILON;ZETA;ETA;THETA;IOTA;KAPPA;LAMDA;MU;NU;XI;OMICRON;PI;RHO",
     "FINAL SIGMA;SIGMA;TAU;UPSILON;PHI;CHI;PSI;OMEGA"]⟩,
   ⟨0x1d6db, "MATHEMATICAL BOLD ",
    ["PARTIAL DIFFERENTIAL;EPSILON SYMBOL;THETA SYMBOL;KAPPA SYMBOL;PHI SYMBOL;RHO SYMBOL",
     "PI SYMBOL"]⟩,
   ⟨0x1d6e2, "MATHEMATICAL ITALIC CAPITAL ",
    ["ALPHA;BETA;GAMMA;DELTA;EPSILON;ZETA;ETA;THETA;IOTA;KAPPA;LAMDA;MU;NU;XI;OMICRON;PI;RHO",
     "THETA SYMBOL;SIGMA;TAU;UPSILON;PHI;CHI;PSI;OMEGA"]⟩,
   ⟨0x1d6fb, "", ["MATHEMATICAL ITALIC NABLA"]⟩,
   ⟨0x1d6fc, "MATHEMATICAL ITALIC SMALL ",
    ["ALPHA;BETA;GAMMA;DELTA;EPSILON;ZETA;ETA;THETA;IOTA;KAPPA;LAMDA;MU;NU;XI;OMICRON;PI;RHO",
     "FINAL SIGMA;SIGMA;TAU;UPSILON;PHI;CHI;PSI;OMEGA"]⟩,
   ⟨0x1d715, "MATHEMATICAL ITALIC ",
    ["PARTIAL DIFFERENTIAL;EPSILON SYMBOL;THETA SYMBOL;KAPPA SYMBOL;PHI SYMBOL;RHO SYMBOL",
     "PI SYMBOL"]⟩,
   ⟨0x1d71c, "MATHEMATICAL BOLD ITALIC CAPITAL ",
    ["ALPHA;BETA;GAMMA;DELTA;EPSILON;ZETA;ETA;THETA;IOTA;KAPPA;LAMDA;MU;NU;XI;OMICRON;PI;RHO",
     "THETA SYMBOL;SIGMA;TAU;UPSILON;PHI;CHI;PSI;OMEGA"]⟩,
   ⟨0x1d735, "", ["MATHEMATICAL BOLD ITALIC NABLA"]⟩,
   ⟨0x1d736, "MATHEMATICAL BOLD ITALIC SMALL ",
    ["ALPHA;BETA;GAMMA;DELTA;EPSILON;ZETA;ETA;THETA;IOTA;KAPPA;LAMDA;MU;NU;XI;OMICRON;PI;RHO",
     "FINAL SIGMA;SIGMA;TAU;UPSILON;PHI;CHI;PSI;OMEGA"]⟩,
   ⟨0x1d74f, "MATHEMATICAL BOLD ITALIC ",
    ["PARTIAL DIFFERENTIAL;EPSILON SYMBOL;THETA SYMBOL;KAPPA SYMBOL;PHI SYMBOL;RHO SYMBOL",
     "PI SYMBOL"]⟩,
   ⟨0x1d756, "MATHEMATICAL SANS-SERIF BOLD CAPITAL ",
    ["ALPHA;BETA;GAMMA;DELTA;EPSILON;ZETA;ETA;THETA;IOTA;KAPPA;LAMDA;MU;NU;XI;OMICRON;PI;RHO",
     "THETA SYMBOL;SIGMA;TAU;UPSILON;PHI;CHI;PSI;OMEGA"]⟩,
   ⟨0x1d76f, "", ["MATHEMATICAL SANS-SERIF BOLD NABLA"]⟩,
   ⟨0x1d770, "MATHEMATICAL SANS-SERIF BOLD SMALL ",
    ["ALPHA;BETA;GAMMA;DELTA;EPSILON;ZETA;ETA;THETA;IOTA;KAPPA;LAMDA;MU;NU;XI;OMICRON;PI;RHO",
     "FINAL SIGMA;SIGMA;TAU;UPSILON;PHI;CHI;PSI;OMEGA"]⟩,
   ⟨0x1d789, "MATHEMATICAL SANS-SERIF BOLD ",
    ["PARTIAL DIFFERENTIAL;EPSILON SYMBOL;THETA SYMBOL;KAPPA SYMBOL;PHI SYMBOL;RHO SYMBOL",
     "PI SYMBOL"]⟩,
   ⟨0x1d790, "MATHEMATICAL SANS-SERIF BOLD ITALIC CAPITAL ",
    ["ALPHA;BETA;GAMMA;DELTA;EPSILON;ZETA;ETA;THETA;IOTA;KAPPA;LAMDA;MU;NU;XI;OMICRON;PI;RHO",
     "THETA SYMBOL;SIGMA;TAU;UPSILON;PHI;CHI;PSI;OMEGA"]⟩,
   ⟨0x1d7a9, "", ["MATHEMATICAL SANS-SERIF BOLD ITALIC NABLA"]⟩,
   ⟨0x1d7aa, "MATHEMATICAL SANS-SERIF BOLD ITALIC SMALL ",
    ["ALPHA;BETA;GAMMA;DELTA;EPSILON;ZETA;ETA;THETA;IOTA;KAPPA;LAMDA;MU;NU;XI;OMICRON;PI;RHO",
     "FINAL SIGMA;SIGMA;TAU;UPSILON;PHI;CHI;PSI;OMEGA"]⟩,
   ⟨0x1d7c3, "MATHEMATICAL SANS-SERIF BOLD ITALIC ",
    ["PARTIAL DIFFERENTIAL;EPSILON SYMBOL;THETA SYMBOL;KAPPA SYMBOL;PHI SYMBOL;RHO SYMBOL",
     "PI SYMBOL"]⟩,
   ⟨0x1d7ca, "MATHEMATICAL BOLD ", ["CAPITAL DIGAMMA;SMALL DIGAMMA"]⟩,
   ⟨0x1d7ce, "MATHEMATICAL BOLD DIGIT ", ["ZERO;ONE;TWO;THREE;FOUR;FIVE;SIX;SEVEN;EIGHT;NINE"]⟩,
   ⟨0x1d7d8, "MATHEMATICAL DOUBLE-STRUCK DIGIT ",
    ["ZERO;ONE;TWO;THREE;FOUR;FIVE;SIX;SEVEN;EIGHT;NINE"]⟩,
   ⟨0x1d7e2, "MATHEMATICAL SANS-SERIF DIGIT ",
    ["ZERO;ONE;TWO;THREE;FOUR;FIVE;SIX;SEVEN;EIGHT;NINE"]⟩,
   ⟨0x1d7ec, "MATHEMATICAL SANS-SERIF BOLD DIGIT ",
    ["ZERO;ONE;TWO;THREE;FOUR;FIVE;SIX;SEVEN;EIGHT;NINE"]⟩,
   ⟨0x1d7f6, "MATHEMATICAL MONOSPACE DIGIT ",
    ["ZERO;ONE;TWO;THREE;FOUR;FIVE;SIX;SEVEN;EIGHT;NINE"]⟩,
   ⟨0x1d800, "SIGNWRITING ",
    ["HAND-FIST INDEX;HAND-CIRCLE INDEX;HAND-CUP INDEX;HAND-OVAL INDEX;HAND-HINGE INDEX",
     "HAND-ANGLE INDEX;HAND-FIST INDEX BENT;HAND-CIRCLE INDEX BENT",
     "HAND-FIST THUMB UNDER INDEX BENT;HAND-FIST INDEX RAISED KNUCKLE;HAND-FIST INDEX CUPPED",
     "HAND-FIST INDEX HINGED;HAND-FIST INDEX HINGED LOW;HAND-CIRCLE INDEX HINGE",
     "HAND-FIST INDEX MIDDLE;HAND-CIRCLE INDEX MIDDLE"]⟩,
   ⟨0x1d810, "SIGNWRITING HAND-FIST INDEX ",
    ["MIDDLE BENT;MIDDLE RAISED KNUCKLES;MIDDLE HINGED;UP MIDDLE HINGED;HINGED MIDDLE UP",
     "MIDDLE CONJOINED;MIDDLE CONJOINED INDEX BENT;MIDDLE CONJOINED MIDDLE BENT",
     "MIDDLE CONJOINED CUPPED;MIDDLE CONJOINED HINGED;MIDDLE CROSSED"]⟩,
   ⟨0x1d81b, "SIGNWRITING ",
    ["HAND-CIRCLE INDEX MIDDLE CROSSED;HAND-FIST MIDDLE BENT OVER INDEX",
     "HAND-FIST INDEX BENT OVER MIDDLE;HAND-FIST INDEX MIDDLE THUMB;HAND-CIRCLE INDEX MIDDLE THUMB"]⟩,
   ⟨0x1d820, "SIGNWRITING HAND-FIST INDEX ",
    ["MIDDLE STRAIGHT THUMB BENT;MIDDLE BENT THUMB STRAIGHT;MIDDLE THUMB BENT",
     "MIDDLE HINGED SPREAD THUMB SIDE;UP MIDDLE HINGED THUMB SIDE;UP MIDDLE HINGED THUMB CONJOINED",
     "HINGED MIDDLE UP THUMB SIDE;MIDDLE UP SPREAD THUMB FORWARD;MIDDLE THUMB CUPPED",
     "MIDDLE THUMB CIRCLED;MIDDLE THUMB HOOKED;MIDDLE THUMB HINGED"]⟩,
   ⟨0x1d82c, "SIGNWRITING HAND-FIST ",
    ["THUMB BETWEEN INDEX MIDDLE STRAIGHT;INDEX MIDDLE CONJOINED THUMB SIDE",
     "INDEX MIDDLE CONJOINED THUMB SIDE CONJOINED;INDEX MIDDLE CONJOINED THUMB SIDE BENT",
     "MIDDLE THUMB HOOKED INDEX UP;INDEX THUMB HOOKED MIDDLE UP",
     "INDEX MIDDLE CONJOINED HINGED THUMB SIDE;INDEX MIDDLE CROSSED THUMB SIDE",
     "INDEX MIDDLE CONJOINED THUMB FORWARD;INDEX MIDDLE CONJOINED CUPPED THUMB FORWARD",
     "MIDDLE THUMB CUPPED INDEX UP;INDEX THUMB CUPPED MIDDLE UP;MIDDLE THUMB CIRCLED INDEX UP",
     "MIDDLE THUMB CIRCLED INDEX HINGED;INDEX THUMB ANGLED OUT MIDDLE UP",
     "INDEX THUMB ANGLED IN MIDDLE UP;INDEX THUMB CIRCLED MIDDLE UP",
     "INDEX MIDDLE THUMB CONJOINED HINGED;INDEX MIDDLE THUMB ANGLED OUT;INDEX MIDDLE THUMB ANGLED",
     "MIDDLE THUMB ANGLED OUT INDEX UP;MIDDLE THUMB ANGLED OUT INDEX CROSSED",
     "MIDDLE THUMB ANGLED INDEX UP;INDEX THUMB HOOKED MIDDLE HINGED"]⟩,
   ⟨0x1d844, "SIGNWRITING HAND-FLAT FOUR ",
    ["FINGERS;FINGERS BENT;FINGERS HINGED;FINGERS CONJOINED;FINGERS CONJOINED SPLIT"]⟩,
   ⟨0x1d849, "SIGNWRITING ",
    ["HAND-CLAW FOUR FINGERS CONJOINED;HAND-FIST FOUR FINGERS CONJOINED BENT",
     "HAND-HINGE FOUR FINGERS CONJOINED;HAND-FLAT FIVE FINGERS SPREAD",
     "HAND-FLAT HEEL FIVE FINGERS SPREAD;HAND-FLAT FIVE FINGERS SPREAD FOUR BENT",
     "HAND-FLAT HEEL FIVE FINGERS SPREAD FOUR BENT;HAND-FLAT FIVE FINGERS SPREAD BENT",
     "HAND-FLAT HEEL FIVE FINGERS SPREAD BENT;HAND-FLAT FIVE FINGERS SPREAD THUMB FORWARD",
     "HAND-CUP FIVE FINGERS SPREAD;HAND-CUP FIVE FINGERS SPREAD OPEN",
     "HAND-HINGE FIVE FINGERS SPREAD OPEN;HAND-OVAL FIVE FINGERS SPREAD",
     "HAND-FLAT FIVE FINGERS SPREAD HINGED;HAND-FLAT FIVE FINGERS SPREAD HINGED THUMB SIDE",
     "HAND-FLAT FIVE FINGERS SPREAD HINGED NO THUMB;HAND-FLAT"]⟩,
   ⟨0x1d85b, "SIGNWRITING HAND-FLAT ",
    ["BETWEEN PALM FACINGS;HEEL;THUMB SIDE;HEEL THUMB SIDE;THUMB BENT;THUMB FORWARD",
     "SPLIT INDEX THUMB SIDE;SPLIT CENTRE;SPLIT CENTRE THUMB SIDE;SPLIT CENTRE THUMB SIDE BENT",
     "SPLIT LITTLE"]⟩,
   ⟨0x1d866, "SIGNWRITING ",
    ["HAND-CLAW;HAND-CLAW THUMB SIDE;HAND-CLAW NO THUMB;HAND-CLAW THUMB FORWARD;HAND-HOOK CURLICUE",
     "HAND-HOOK;HAND-CUP OPEN;HAND-CUP;HAND-CUP OPEN THUMB SIDE;HAND-CUP THUMB SIDE",
     "HAND-CUP OPEN NO THUMB;HAND-CUP NO THUMB;HAND-CUP OPEN THUMB FORWARD;HAND-CUP THUMB FORWARD",
     "HAND-CURLICUE OPEN;HAND-CURLICUE;HAND-CIRCLE;HAND-OVAL;HAND-OVAL THUMB SIDE",
     "HAND-OVAL NO THUMB;HAND-OVAL THUMB FORWARD;HAND-HINGE OPEN;HAND-HINGE OPEN THUMB FORWARD",
     "HAND-HINGE;HAND-HINGE SMALL;HAND-HINGE OPEN THUMB SIDE;HAND-HINGE THUMB SIDE",
     "HAND-HINGE OPEN NO THUMB;HAND-HINGE NO THUMB;HAND-HINGE THUMB SIDE TOUCHING INDEX",
     "HAND-HINGE THUMB BETWEEN MIDDLE RING;HAND-ANGLE;HAND-FIST INDEX MIDDLE RING",
     "HAND-CIRCLE INDEX MIDDLE RING;HAND-HINGE INDEX MIDDLE RING;HAND-ANGLE INDEX MIDDLE RING",
     "HAND-HINGE LITTLE;HAND-FIST INDEX MIDDLE RING BENT;HAND-FIST INDEX MIDDLE RING CONJOINED",
     "HAND-HINGE INDEX MIDDLE RING CONJOINED;HAND-FIST LITTLE DOWN",
     "HAND-FIST LITTLE DOWN RIPPLE STRAIGHT;HAND-FIST LITTLE DOWN RIPPLE CURVED",
     "HAND-FIST LITTLE DOWN OTHERS CIRCLED;HAND-FIST LITTLE UP;HAND-FIST THUMB UNDER LITTLE UP",
     "HAND-CIRCLE LITTLE UP;HAND-OVAL LITTLE UP;HAND-ANGLE LITTLE UP",
     "HAND-FIST LITTLE RAISED KNUCKLE;HAND-FIST LITTLE BENT;HAND-FIST LITTLE TOUCHES THUMB",
     "HAND-FIST LITTLE THUMB;HAND-HINGE LITTLE THUMB;HAND-FIST LITTLE INDEX THUMB",
     "HAND-HINGE LITTLE INDEX THUMB;HAND-ANGLE LITTLE INDEX THUMB INDEX THUMB OUT",
     "HAND-ANGLE LITTLE INDEX THUMB INDEX THUMB;HAND-FIST LITTLE INDEX;HAND-CIRCLE LITTLE INDEX",
     "HAND-HINGE LITTLE INDEX;HAND-ANGLE LITTLE INDEX;HAND-FIST INDEX MIDDLE LITTLE",
     "HAND-CIRCLE INDEX MIDDLE LITTLE;HAND-HINGE INDEX MIDDLE LITTLE;HAND-HINGE RING",
     "HAND-ANGLE INDEX MIDDLE LITTLE;HAND-FIST INDEX MIDDLE CROSS LITTLE",
     "HAND-CIRCLE INDEX MIDDLE CROSS LITTLE;HAND-FIST RING DOWN",
     "HAND-HINGE RING DOWN INDEX THUMB HOOK MIDDLE;HAND-ANGLE RING DOWN MIDDLE THUMB INDEX CROSS",
     "HAND-FIST RING UP;HAND-FIST RING RAISED KNUCKLE;HAND-FIST RING LITTLE",
     "HAND-CIRCLE RING LITTLE;HAND-OVAL RING LITTLE;HAND-ANGLE RING LITTLE;HAND-FIST RING MIDDLE",
     "HAND-FIST RING MIDDLE CONJOINED;HAND-FIST RING MIDDLE RAISED KNUCKLES;HAND-FIST RING INDEX",
     "HAND-FIST RING THUMB;HAND-HOOK RING THUMB;HAND-FIST INDEX RING LITTLE",
     "HAND-CIRCLE INDEX RING LITTLE;HAND-CURLICUE INDEX RING LITTLE ON",
     "HAND-HOOK INDEX RING LITTLE OUT;HAND-HOOK INDEX RING LITTLE IN",
     "HAND-HOOK INDEX RING LITTLE UNDER;HAND-CUP INDEX RING LITTLE;HAND-HINGE INDEX RING LITTLE",
     "HAND-ANGLE INDEX RING LITTLE OUT;HAND-ANGLE INDEX RING LITTLE;HAND-FIST MIDDLE DOWN",
     "HAND-HINGE MIDDLE;HAND-FIST MIDDLE UP;HAND-CIRCLE MIDDLE UP;HAND-FIST MIDDLE RAISED KNUCKLE",
     "HAND-FIST MIDDLE UP THUMB SIDE;HAND-HOOK MIDDLE THUMB;HAND-FIST MIDDLE THUMB LITTLE",
     "HAND-FIST MIDDLE LITTLE;HAND-FIST MIDDLE RING LITTLE;HAND-CIRCLE MIDDLE RING LITTLE",
     "HAND-CURLICUE MIDDLE RING LITTLE ON;HAND-CUP MIDDLE RING LITTLE",
     "HAND-HINGE MIDDLE RING LITTLE;HAND-ANGLE MIDDLE RING LITTLE OUT",
     "HAND-ANGLE MIDDLE RING LITTLE IN;HAND-ANGLE MIDDLE RING LITTLE",
     "HAND-CIRCLE MIDDLE RING LITTLE BENT;HAND-CLAW MIDDLE RING LITTLE CONJOINED",
     "HAND-CLAW MIDDLE RING LITTLE CONJOINED SIDE;HAND-HOOK MIDDLE RING LITTLE CONJOINED OUT",
     "HAND-HOOK MIDDLE RING LITTLE CONJOINED IN;HAND-HOOK MIDDLE RING LITTLE CONJOINED",
     "HAND-HINGE INDEX HINGED;HAND-FIST INDEX THUMB SIDE;HAND-HINGE INDEX THUMB SIDE"]⟩,
   ⟨0x1d8de, "SIGNWRITING HAND-FIST INDEX THUMB ",
    ["SIDE THUMB DIAGONAL;SIDE THUMB CONJOINED;SIDE THUMB BENT;SIDE INDEX BENT;SIDE BOTH BENT",
     "SIDE INDEX HINGE;FORWARD INDEX STRAIGHT;FORWARD INDEX BENT;HOOK;CURLICUE;CURVE THUMB INSIDE"]⟩,
   ⟨0x1d8e9, "SIGNWRITING ",
    ["HAND-CLAW INDEX THUMB CURVE THUMB INSIDE;HAND-FIST INDEX THUMB CURVE THUMB UNDER",
     "HAND-FIST INDEX THUMB CIRCLE;HAND-CUP INDEX THUMB;HAND-CUP INDEX THUMB OPEN",
     "HAND-HINGE INDEX THUMB OPEN;HAND-HINGE INDEX THUMB LARGE;HAND-HINGE INDEX THUMB",
     "HAND-HINGE INDEX THUMB SMALL;HAND-ANGLE INDEX THUMB OUT;HAND-ANGLE INDEX THUMB IN",
     "HAND-ANGLE INDEX THUMB;HAND-FIST THUMB"]⟩,
   ⟨0x1d8f6, "SIGNWRITING HAND-FIST THUMB ",
    ["HEEL;SIDE DIAGONAL;SIDE CONJOINED;SIDE BENT;FORWARD;BETWEEN INDEX MIDDLE;BETWEEN MIDDLE RING",
     "BETWEEN RING LITTLE;UNDER TWO FINGERS;OVER TWO FINGERS;UNDER THREE FINGERS",
     "UNDER FOUR FINGERS;OVER FOUR RAISED KNUCKLES"]⟩,
   ⟨0x1d903, "SIGNWRITING ",
    ["HAND-FIST;HAND-FIST HEEL;TOUCH SINGLE;TOUCH MULTIPLE;TOUCH BETWEEN;GRASP SINGLE",
     "GRASP MULTIPLE;GRASP BETWEEN;STRIKE SINGLE;STRIKE MULTIPLE;STRIKE BETWEEN;BRUSH SINGLE",
     "BRUSH MULTIPLE;BRUSH BETWEEN;RUB SINGLE;RUB MULTIPLE;RUB BETWEEN;SURFACE SYMBOLS",
     "SURFACE BETWEEN;SQUEEZE LARGE SINGLE;SQUEEZE SMALL SINGLE;SQUEEZE LARGE MULTIPLE",
     "SQUEEZE SMALL MULTIPLE;SQUEEZE SEQUENTIAL;FLICK LARGE SINGLE;FLICK SMALL SINGLE",
     "FLICK LARGE MULTIPLE;FLICK SMALL MULTIPLE;FLICK SEQUENTIAL;SQUEEZE FLICK ALTERNATING"]⟩,
   ⟨0x1d921, "SIGNWRITING MOVEMENT-HINGE ",
    ["UP DOWN LARGE;UP DOWN SMALL;UP SEQUENTIAL;DOWN SEQUENTIAL;UP DOWN ALTERNATING LARGE",
     "UP DOWN ALTERNATING SMALL;SIDE TO SIDE SCISSORS"]⟩,
   ⟨0x1d928, "SIGNWRITING ",
    ["MOVEMENT-WALLPLANE FINGER CONTACT;MOVEMENT-FLOORPLANE FINGER CONTACT"]⟩,
   ⟨0x1d92a, "SIGNWRITING MOVEMENT-WALLPLANE ",
    ["SINGLE STRAIGHT SMALL;SINGLE STRAIGHT MEDIUM;SINGLE STRAIGHT LARGE;SINGLE STRAIGHT LARGEST",
     "SINGLE WRIST FLEX;DOUBLE STRAIGHT;DOUBLE WRIST FLEX;DOUBLE ALTERNATING",
     "DOUBLE ALTERNATING WRIST FLEX;CROSS;TRIPLE STRAIGHT MOVEMENT;TRIPLE WRIST FLEX",
     "TRIPLE ALTERNATING;TRIPLE ALTERNATING WRIST FLEX;BEND SMALL;BEND MEDIUM;BEND LARGE",
     "CORNER SMALL;CORNER MEDIUM;CORNER LARGE;CORNER ROTATION;CHECK SMALL;CHECK MEDIUM;CHECK LARGE",
     "BOX SMALL;BOX MEDIUM;BOX LARGE;ZIGZAG SMALL;ZIGZAG MEDIUM;ZIGZAG LARGE;PEAKS SMALL",
     "PEAKS MEDIUM;PEAKS LARGE"]⟩,
   ⟨0x1d94b, "SIGNWRITING TRAVEL-WALLPLANE ",
    ["ROTATION-WALLPLANE SINGLE;ROTATION-WALLPLANE DOUBLE;ROTATION-WALLPLANE ALTERNATING",
     "ROTATION-FLOORPLANE SINGLE;ROTATION-FLOORPLANE DOUBLE;ROTATION-FLOORPLANE ALTERNATING",
     "SHAKING;ARM SPIRAL SINGLE;ARM SPIRAL DOUBLE;ARM SPIRAL TRIPLE"]⟩,
   ⟨0x1d955, "SIGNWRITING MOVEMENT-DIAGONAL ",
    ["AWAY SMALL;AWAY MEDIUM;AWAY LARGE;AWAY LARGEST;TOWARDS SMALL;TOWARDS MEDIUM;TOWARDS LARGE",
     "TOWARDS LARGEST"]⟩,
   ⟨0x1d95d, "SIGNWRITING MOVEMENT-DIAGONAL BETWEEN ",
    ["AWAY SMALL;AWAY MEDIUM;AWAY LARGE;AWAY LARGEST;TOWARDS SMALL;TOWARDS MEDIUM;TOWARDS LARGE",
     "TOWARDS LARGEST"]⟩,
   ⟨0x1d965, "SIGNWRITING MOVEMENT-FLOORPLANE ",
    ["SINGLE STRAIGHT SMALL;SINGLE STRAIGHT MEDIUM;SINGLE STRAIGHT LARGE;SINGLE STRAIGHT LARGEST",
     "SINGLE WRIST FLEX;DOUBLE STRAIGHT;DOUBLE WRIST FLEX;DOUBLE ALTERNATING",
     "DOUBLE ALTERNATING WRIST FLEX;CROSS;TRIPLE STRAIGHT MOVEMENT;TRIPLE WRIST FLEX",
     "TRIPLE ALTERNATING MOVEMENT;TRIPLE ALTERNATING WRIST FLEX;BEND;CORNER SMALL;CORNER MEDIUM",
     "CORNER LARGE;CHECK;BOX SMALL;BOX MEDIUM;BOX LARGE;ZIGZAG SMALL;ZIGZAG MEDIUM;ZIGZAG LARGE",
     "PEAKS SMALL;PEAKS MEDIUM;PEAKS LARGE"]⟩,
   ⟨0x1d981, "SIGNWRITING TRAVEL-FLOORPLANE ",
    ["ROTATION-FLOORPLANE SINGLE;ROTATION-FLOORPLANE DOUBLE;ROTATION-FLOORPLANE ALTERNATING",
     "ROTATION-WALLPLANE SINGLE;ROTATION-WALLPLANE DOUBLE;ROTATION-WALLPLANE ALTERNATING;SHAKING"]⟩,
   ⟨0x1d988, "SIGNWRITING MOVEMENT-WALLPLANE ",
    ["CURVE QUARTER SMALL;CURVE QUARTER MEDIUM;CURVE QUARTER LARGE;CURVE QUARTER LARGEST",
     "CURVE HALF-CIRCLE SMALL;CURVE HALF-CIRCLE MEDIUM;CURVE HALF-CIRCLE LARGE",
     "CURVE HALF-CIRCLE LARGEST;CURVE THREE-QUARTER CIRCLE SMALL;CURVE THREE-QUARTER CIRCLE MEDIUM",
     "HUMP SMALL;HUMP MEDIUM;HUMP LARGE;LOOP SMALL;LOOP MEDIUM;LOOP LARGE;LOOP SMALL DOUBLE",
     "WAVE CURVE DOUBLE SMALL;WAVE CURVE DOUBLE MEDIUM;WAVE CURVE DOUBLE LARGE",
     "WAVE CURVE TRIPLE SMALL;WAVE CURVE TRIPLE MEDIUM;WAVE CURVE TRIPLE LARGE;CURVE THEN STRAIGHT",
     "CURVED CROSS SMALL;CURVED CROSS MEDIUM"]⟩,
   ⟨0x1d9a2, "SIGNWRITING ROTATION-WALLPLANE ", ["SINGLE;DOUBLE;ALTERNATE"]⟩,
   ⟨0x1d9a5, "SIGNWRITING MOVEMENT-WALLPLANE ",
    ["SHAKING;CURVE HITTING FRONT WALL;HUMP HITTING FRONT WALL;LOOP HITTING FRONT WALL",
     "WAVE HITTING FRONT WALL"]⟩,
   ⟨0x1d9aa, "SIGNWRITING ROTATION-WALLPLANE ",
    ["SINGLE HITTING FRONT WALL;DOUBLE HITTING FRONT WALL;ALTERNATING HITTING FRONT WALL"]⟩,
   ⟨0x1d9ad, "SIGNWRITING MOVEMENT-WALLPLANE ",
    ["CURVE HITTING CHEST;HUMP HITTING CHEST;LOOP HITTING CHEST;WAVE HITTING CHEST"]⟩,
   ⟨0x1d9b1, "SIGNWRITING ROTATION-WALLPLANE ",
    ["SINGLE HITTING CHEST;DOUBLE HITTING CHEST;ALTERNATING HITTING CHEST"]⟩,
   ⟨0x1d9b4, "SIGNWRITING MOVEMENT-WALLPLANE WAVE DIAGONAL PATH ", ["SMALL;MEDIUM;LARGE"]⟩,
   ⟨0x1d9b7, "SIGNWRITING MOVEMENT-FLOORPLANE CURVE HITTING CEILING ", ["SMALL;LARGE"]⟩,
   ⟨0x1d9b9, "SIGNWRITING MOVEMENT-FLOORPLANE HUMP HITTING CEILING ",
    ["SMALL DOUBLE;LARGE DOUBLE;SMALL TRIPLE;LARGE TRIPLE"]⟩,
   ⟨0x1d9bd, "SIGNWRITING MOVEMENT-FLOORPLANE LOOP HITTING CEILING ",
    ["SMALL SINGLE;LARGE SINGLE;SMALL DOUBLE;LARGE DOUBLE"]⟩,
   ⟨0x1d9c1, "SIGNWRITING MOVEMENT-FLOORPLANE WAVE HITTING CEILING ", ["SMALL;LARGE"]⟩,
   ⟨0x1d9c3, "SIGNWRITING ROTATION-FLOORPLANE ",
    ["SINGLE HITTING CEILING;DOUBLE HITTING CEILING;ALTERNATING HITTING CEILING"]⟩,
   ⟨0x1d9c6, "SIGNWRITING MOVEMENT-FLOORPLANE ",
    ["CURVE HITTING FLOOR SMALL;CURVE HITTING FLOOR LARGE;HUMP HITTING FLOOR SMALL DOUBLE",
     "HUMP HITTING FLOOR LARGE DOUBLE;HUMP HITTING FLOOR TRIPLE SMALL TRIPLE",
     "HUMP HITTING FLOOR TRIPLE LARGE TRIPLE;LOOP HITTING FLOOR SMALL SINGLE",
     "LOOP HITTING FLOOR LARGE SINGLE;LOOP HITTING FLOOR SMALL DOUBLE",
     "LOOP HITTING FLOOR LARGE DOUBLE;WAVE HITTING FLOOR SMALL;WAVE HITTING FLOOR LARGE"]⟩,
   ⟨0x1d9d2, "SIGNWRITING ROTATION-FLOORPLANE ",
    ["SINGLE HITTING FLOOR;DOUBLE HITTING FLOOR;ALTERNATING HITTING FLOOR"]⟩,
   ⟨0x1d9d5, "SIGNWRITING MOVEMENT-FLOORPLANE ",
    ["CURVE SMALL;CURVE MEDIUM;CURVE LARGE;CURVE LARGEST;CURVE COMBINED;HUMP SMALL;LOOP SMALL",
     "WAVE SNAKE;WAVE SMALL;WAVE LARGE"]⟩,
   ⟨0x1d9df, "SIGNWRITING ROTATION-FLOORPLANE ", ["SINGLE;DOUBLE;ALTERNATING"]⟩,
   ⟨0x1d9e2, "", ["SIGNWRITING MOVEMENT-FLOORPLANE SHAKING PARALLEL"]⟩,
   ⟨0x1d9e3, "SIGNWRITING MOVEMENT-WALLPLANE ARM CIRCLE ",
    ["SMALL SINGLE;MEDIUM SINGLE;SMALL DOUBLE;MEDIUM DOUBLE"]⟩,
   ⟨0x1d9e7, "SIGNWRITING MOVEMENT-FLOORPLANE ARM CIRCLE HITTING WALL ",
    ["SMALL SINGLE;MEDIUM SINGLE;LARGE SINGLE;SMALL DOUBLE;MEDIUM DOUBLE;LARGE DOUBLE"]⟩,
   ⟨0x1d9ed, "SIGNWRITING MOVEMENT-WALLPLANE WRIST CIRCLE FRONT ", ["SINGLE;DOUBLE"]⟩,
   ⟨0x1d9ef, "SIGNWRITING MOVEMENT-FLOORPLANE WRIST CIRCLE HITTING WALL ", ["SINGLE;DOUBLE"]⟩,
   ⟨0x1d9f1, "SIGNWRITING MOVEMENT-WALLPLANE FINGER CIRCLES ", ["SINGLE;DOUBLE"]⟩,
   ⟨0x1d9f3, "SIGNWRITING MOVEMENT-FLOORPLANE FINGER CIRCLES HITTING WALL ", ["SINGLE;DOUBLE"]⟩,
   ⟨0x1d9f5, "SIGNWRITING DYNAMIC ",
    ["ARROWHEAD SMALL;ARROWHEAD LARGE;FAST;SLOW;TENSE;RELAXED;SIMULTANEOUS",
     "SIMULTANEOUS ALTERNATING;EVERY OTHER TIME;GRADUAL"]⟩,
   ⟨0x1d9ff, "SIGNWRITING ",
    ["HEAD;HEAD RIM;HEAD MOVEMENT-WALLPLANE STRAIGHT;HEAD MOVEMENT-WALLPLANE TILT",
     "HEAD MOVEMENT-FLOORPLANE STRAIGHT;HEAD MOVEMENT-WALLPLANE CURVE",
     "HEAD MOVEMENT-FLOORPLANE CURVE;HEAD MOVEMENT CIRCLE",
     "FACE DIRECTION POSITION NOSE FORWARD TILTING;FACE DIRECTION POSITION NOSE UP OR DOWN",
     "FACE DIRECTION POSITION NOSE UP OR DOWN TILTING;EYEBROWS STRAIGHT UP",
     "EYEBROWS STRAIGHT NEUTRAL;EYEBROWS STRAIGHT DOWN;DREAMY EYEBROWS NEUTRAL DOWN",
     "DREAMY EYEBROWS DOWN NEUTRAL;DREAMY EYEBROWS UP NEUTRAL;DREAMY EYEBROWS NEUTRAL UP",
     "FOREHEAD NEUTRAL;FOREHEAD CONTACT;FOREHEAD WRINKLED;EYES OPEN;EYES SQUEEZED;EYES CLOSED",
     "EYE BLINK SINGLE;EYE BLINK MULTIPLE;EYES HALF OPEN;EYES WIDE OPEN;EYES HALF CLOSED",
     "EYES WIDENING MOVEMENT;EYE WINK;EYELASHES UP;EYELASHES DOWN;EYELASHES FLUTTERING",
     "EYEGAZE-WALLPLANE STRAIGHT;EYEGAZE-WALLPLANE STRAIGHT DOUBLE",
     "EYEGAZE-WALLPLANE STRAIGHT ALTERNATING;EYEGAZE-FLOORPLANE STRAIGHT",
     "EYEGAZE-FLOORPLANE STRAIGHT DOUBLE;EYEGAZE-FLOORPLANE STRAIGHT ALTERNATING",
     "EYEGAZE-WALLPLANE CURVED;EYEGAZE-FLOORPLANE CURVED;EYEGAZE-WALLPLANE CIRCLING;CHEEKS PUFFED",
     "CHEEKS NEUTRAL;CHEEKS SUCKED;TENSE CHEEKS HIGH;TENSE CHEEKS MIDDLE;TENSE CHEEKS LOW;EARS",
     "NOSE NEUTRAL;NOSE CONTACT;NOSE WRINKLES;NOSE WIGGLES;AIR BLOWING OUT;AIR SUCKING IN",
     "AIR BLOW SMALL ROTATIONS;AIR SUCK SMALL ROTATIONS;BREATH INHALE;BREATH EXHALE"]⟩,
   ⟨0x1da3b, "SIGNWRITING MOUTH ",
    ["CLOSED NEUTRAL;CLOSED FORWARD;CLOSED CONTACT;SMILE;SMILE WRINKLED;SMILE OPEN;FROWN",
     "FROWN WRINKLED;FROWN OPEN;OPEN CIRCLE;OPEN FORWARD;OPEN WRINKLED;OPEN OVAL",
     "OPEN OVAL WRINKLED;OPEN OVAL YAWN;OPEN RECTANGLE;OPEN RECTANGLE WRINKLED;OPEN RECTANGLE YAWN",
     "KISS;KISS FORWARD;KISS WRINKLED;TENSE;TENSE FORWARD;TENSE SUCKED"]⟩,
   ⟨0x1da53, "SIGNWRITING ",
    ["LIPS PRESSED TOGETHER;LIP LOWER OVER UPPER;LIP UPPER OVER LOWER;MOUTH CORNERS",
     "MOUTH WRINKLES SINGLE;MOUTH WRINKLES DOUBLE;TONGUE STICKING OUT FAR;TONGUE LICKING LIPS",
     "TONGUE TIP BETWEEN LIPS;TONGUE TIP TOUCHING INSIDE MOUTH;TONGUE INSIDE MOUTH RELAXED",
     "TONGUE MOVES AGAINST CHEEK;TONGUE CENTRE STICKING OUT;TONGUE CENTRE INSIDE MOUTH;TEETH",
     "TEETH MOVEMENT;TEETH ON TONGUE;TEETH ON TONGUE MOVEMENT;TEETH ON LIPS;TEETH ON LIPS MOVEMENT",
     "TEETH BITE LIPS;MOVEMENT-WALLPLANE JAW;MOVEMENT-FLOORPLANE JAW;NECK;HAIR;EXCITEMENT",
     "SHOULDER HIP SPINE;SHOULDER HIP POSITIONS;WALLPLANE SHOULDER HIP MOVE",
     "FLOORPLANE SHOULDER HIP MOVE;SHOULDER TILTING FROM WAIST;TORSO-WALLPLANE STRAIGHT STRETCH",
     "TORSO-WALLPLANE CURVED BEND;TORSO-FLOORPLANE TWISTING;UPPER BODY TILTING FROM HIP JOINTS",
     "LIMB COMBINATION;LIMB LENGTH-1;LIMB LENGTH-2;LIMB LENGTH-3;LIMB LENGTH-4;LIMB LENGTH-5",
     "LIMB LENGTH-6;LIMB LENGTH-7;FINGER;LOCATION-WALLPLANE SPACE;LOCATION-FLOORPLANE SPACE",
     "LOCATION HEIGHT;LOCATION WIDTH;LOCATION DEPTH;LOCATION HEAD NECK;LOCATION TORSO",
     "LOCATION LIMBS DIGITS;COMMA;FULL STOP;SEMICOLON;COLON;PARENTHESIS"]⟩,
   ⟨0x1da9b, "SIGNWRITING FILL ", ["MODIFIER-2;MODIFIER-3;MODIFIER-4;MODIFIER-5;MODIFIER-6"]⟩,
   ⟨0x1daa1, "SIGNWRITING ROTATION ",
    ["MODIFIER-2;MODIFIER-3;MODIFIER-4;MODIFIER-5;MODIFIER-6;MODIFIER-7;MODIFIER-8;MODIFIER-9",
     "MODIFIER-10;MODIFIER-11;MODIFIER-12;MODIFIER-13;MODIFIER-14;MODIFIER-15;MODIFIER-16"]⟩,
   ⟨0x1df00, "LATIN ",
    ["SMALL LETTER FENG DIGRAPH WITH TRILL;SMALL LETTER REVERSED SCRIPT G",
     "LETTER SMALL CAPITAL TURNED G;SMALL LETTER REVERSED K;LETTER SMALL CAPITAL L WITH BELT",
     "SMALL LETTER LEZH WITH RETROFLEX HOOK;SMALL LETTER TURNED Y WITH BELT",
     "SMALL LETTER REVERSED ENG;SMALL LETTER TURNED R WITH LONG LEG AND RETROFLEX HOOK",
     "SMALL LETTER T WITH HOOK AND RETROFLEX HOOK;LETTER RETROFLEX CLICK WITH RETROFLEX HOOK",
     "SMALL LETTER ESH WITH DOUBLE BAR;SMALL LETTER ESH WITH DOUBLE BAR AND CURL",
     "SMALL LETTER TURNED T WITH CURL;LETTER INVERTED GLOTTAL STOP WITH CURL",
     "LETTER STRETCHED C WITH CURL;LETTER SMALL CAPITAL TURNED K"]⟩,
   ⟨0x1df11, "LATIN SMALL LETTER ",
    ["L WITH FISHHOOK;DEZH DIGRAPH WITH PALATAL HOOK;L WITH BELT AND PALATAL HOOK",
     "ENG WITH PALATAL HOOK;TURNED R WITH PALATAL HOOK;R WITH FISHHOOK AND PALATAL HOOK",
     "TESH DIGRAPH WITH PALATAL HOOK;EZH WITH PALATAL HOOK;DEZH DIGRAPH WITH RETROFLEX HOOK",
     "I WITH STROKE AND RETROFLEX HOOK;O WITH RETROFLEX HOOK;TESH DIGRAPH WITH RETROFLEX HOOK",
     "C WITH RETROFLEX HOOK;S WITH CURL"]⟩,
   ⟨0x1e000, "COMBINING GLAGOLITIC LETTER ", ["AZU;BUKY;VEDE;GLAGOLI;DOBRO;YESTU;ZHIVETE"]⟩,
   ⟨0x1e008, "COMBINING GLAGOLITIC LETTER ",
    ["ZEMLJA;IZHE;INITIAL IZHE;I;DJERVI;KAKO;LJUDIJE;MYSLITE;NASHI;ONU;POKOJI;RITSI;SLOVO;TVRIDO",
     "UKU;FRITU;HERU"]⟩,
   ⟨0x1e01b, "COMBINING GLAGOLITIC LETTER ", ["SHTA;TSI;CHRIVI;SHA;YERU;YERI;YATI"]⟩,
   ⟨0x1e023, "COMBINING GLAGOLITIC LETTER ", ["YU;SMALL YUS"]⟩,
   ⟨0x1e026, "COMBINING GLAGOLITIC LETTER ",
    ["YO;IOTATED SMALL YUS;BIG YUS;IOTATED BIG YUS;FITA"]⟩,
   ⟨0x1e100, "NYIAKENG PUACHUE HMONG LETTER ",
    ["MA;TSA;NTA;TA;HA;NA;XA;NKA;CA;LA;SA;ZA;NCA;NTSA;KA;DA;NYA;NRA;VA;NTXA;TXA;FA;RA;QA;YA;NQA;PA",
     "XYA;NPA;DLA;NPLA;HAH;MLA;PLA;GA;RRA;A;AA;I;U;O;OO;E;EE;W"]⟩,
   ⟨0x1e130, "NYIAKENG PUACHUE HMONG ",
    ["TONE-B;TONE-M;TONE-J;TONE-V;TONE-S;TONE-G;TONE-D;SIGN FOR PERSON;SIGN FOR THING",
     "SIGN FOR LOCATION;SIGN FOR ANIMAL;SIGN FOR INVERTEBRATE;SIGN XW XW;SYLLABLE LENGTHENER"]⟩,
   ⟨0x1e140, "NYIAKENG PUACHUE HMONG DIGIT ",
    ["ZERO;ONE;TWO;THREE;FOUR;FIVE;SIX;SEVEN;EIGHT;NINE"]⟩,
   ⟨0x1e14e, "NYIAKENG PUACHUE HMONG ", ["LOGOGRAM NYAJ;CIRCLED CA"]⟩,
   ⟨0x1e290, "TOTO LETTER ",
    ["PA;BA;TA;DA;KA;GA;MA;NA;NGA;SA;CHA;YA;WA;JA;HA;RA;LA;I;BREATHY I;IU;BREATHY IU;U;E;BREATHY E",
     "EO;BREATHY EO;O;AE;BREATHY AE;A"]⟩,
   ⟨0x1e2ae, "", ["TOTO SIGN RISING TONE"]⟩,
   ⟨0x1e2c0, "WANCHO LETTER ",
    ["AA;A;BA;CA;DA;GA;YA;PHA;LA;NA;PA;TA;THA;FA;SA;SHA;JA;ZA;WA;VA;KA;O;AU;RA;MA;KHA;HA;E;I;NGA;U",
     "LLHA;TSA;TRA;ONG;AANG;ANG;ING;ON;EN;AAN;NYA;UEN;YIH"]⟩,
   ⟨0x1e2ec, "WANCHO TONE ", ["TUP;TUPNI;KOI;KOINI"]⟩,
   ⟨0x1e2f0, "WANCHO DIGIT ", ["ZERO;ONE;TWO;THREE;FOUR;FIVE;SIX;SEVEN;EIGHT;NINE"]⟩,
   ⟨0x1e2ff, "", ["WANCHO NGUN SIGN"]⟩,
   ⟨0x1e7e0, "ETHIOPIC SYLLABLE ", ["HHYA;HHYU;HHYI;HHYAA;HHYEE;HHYE;HHYO"]⟩,
   ⟨0x1e7e8, "ETHIOPIC SYLLABLE ", ["GURAGE HHWA;HHWI;HHWEE;HHWE"]⟩,
   ⟨0x1e7ed, "ETHIOPIC SYLLABLE GURAGE ", ["MWI;MWEE"]⟩,
   ⟨0x1e7f0, "ETHIOPIC SYLLABLE GURAGE ",
    ["QWI;QWEE;QWE;BWI;BWEE;KWI;KWEE;KWE;GWI;GWEE;GWE;FWI;FWEE;PWI;PWEE"]⟩,
   ⟨0x1e800, "MENDE KIKAKUI SYLLABLE ",
    ["M001 KI;M002 KA;M003 KU;M065 KEE;M095 KE;M076 KOO;M048 KO;M179 KUA;M004 WI;M005 WA;M006 WU",
     "M126 WEE;M118 WE;M114 WOO;M045 WO;M194 WUI;M143 WEI;M061 WVI;M049 WVA;M139 WVE;M007 MIN",
     "M008 MAN;M009 MUN;M059 MEN;M094 MON;M154 MUAN;M189 MUEN;M010 BI;M011 BA;M012 BU;M150 BEE",
     "M097 BE;M103 BOO;M138 BO;M013 I;M014 A;M015 U;M163 EE;M100 E;M165 OO;M147 O;M137 EI;M131 IN",
     "M135 IN;M195 AN;M178 EN;M019 SI;M020 SA;M021 SU;M162 SEE;M116 SE;M136 SOO;M079 SO;M196 SIA",
     "M025 LI;M026 LA;M027 LU;M084 LEE;M073 LE;M054 LOO;M153 LO;M110 LONG LE;M016 DI;M017 DA",
     "M018 DU;M089 DEE;M180 DOO;M181 DO;M022 TI;M023 TA;M024 TU;M091 TEE;M055 TE;M104 TOO;M069 TO",
     "M028 JI;M029 JA;M030 JU;M157 JEE;M113 JE;M160 JOO;M063 JO;M175 LONG JO;M031 YI;M032 YA",
     "M033 YU;M109 YEE;M080 YE;M141 YOO;M121 YO;M034 FI;M035 FA;M036 FU;M078 FEE;M075 FE;M133 FOO",
     "M088 FO;M197 FUA;M101 FAN;M037 NIN;M038 NAN;M039 NUN;M117 NEN;M169 NON;M176 HI;M041 HA",
     "M186 HU;M040 HEE;M096 HE;M042 HOO;M140 HO;M083 HEEI;M128 HOOU;M053 HIN;M130 HAN;M087 HUN",
     "M052 HEN;M193 HON;M046 HUAN;M090 NGGI;M043 NGGA;M082 NGGU;M115 NGGEE;M146 NGGE;M156 NGGOO",
     "M120 NGGO;M159 NGGAA;M127 NGGUA;M086 LONG NGGE;M106 LONG NGGOO;M183 LONG NGGO;M155 GI",
     "M111 GA;M168 GU;M190 GEE;M166 GUEI;M167 GUAN;M184 NGEN;M057 NGON;M177 NGUAN;M068 PI;M099 PA",
     "M050 PU;M081 PEE;M051 PE;M102 POO;M066 PO;M145 MBI;M062 MBA;M122 MBU;M047 MBEE;M188 MBEE",
     "M072 MBE;M172 MBOO;M174 MBO;M187 MBUU;M161 LONG MBE;M105 LONG MBOO;M142 LONG MBO"]⟩,
   ⟨0x1e89f, "MENDE KIKAKUI SYLLABLE ",
    ["M132 KPI;M092 KPA;M074 KPU;M044 KPEE;M108 KPE;M112 KPOO;M158 KPO;M124 GBI;M056 GBA;M148 GBU",
     "M093 GBEE;M107 GBE;M071 GBOO;M070 GBO;M171 RA;M123 NDI;M129 NDA;M125 NDU;M191 NDEE;M119 NDE",
     "M067 NDOO;M064 NDO;M152 NJA;M192 NJU;M149 NJEE;M134 NJOO;M182 VI;M185 VA;M151 VU;M173 VEE",
     "M085 VE;M144 VOO;M077 VO;M164 NYIN;M058 NYAN;M170 NYUN;M098 NYEN;M060 NYON"]⟩,
   ⟨0x1e8c7, "MENDE KIKAKUI DIGIT ", ["ONE;TWO;THREE;FOUR;FIVE;SIX;SEVEN;EIGHT;NINE"]⟩,
   ⟨0x1e8d0, "MENDE KIKAKUI COMBINING NUMBER ",
    ["TEENS;TENS;HUNDREDS;THOUSANDS;TEN THOUSANDS;HUNDRED THOUSANDS;MILLIONS"]⟩,
   ⟨0x1e900, "ADLAM CAPITAL LETTER ",
    ["ALIF;DAALI;LAAM;MIIM;BA;SINNYIIYHE;PE;BHE;RA;E;FA;I;O;DHA;YHE;WAW;NUN;KAF;YA;U;JIIM;CHI;HA",
     "QAAF;GA;NYA;TU;NHA;VA;KHA;GBE;ZAL;KPO;SHA"]⟩,
   ⟨0x1e922, "ADLAM SMALL LETTER ",
    ["ALIF;DAALI;LAAM;MIIM;BA;SINNYIIYHE;PE;BHE;RA;E;FA;I;O;DHA;YHE;WAW;NUN;KAF;YA;U;JIIM;CHI;HA",
     "QAAF;GA;NYA;TU;NHA;VA;KHA;GBE;ZAL;KPO;SHA"]⟩,
   ⟨0x1e944, "ADLAM ",
    ["ALIF LENGTHENER;VOWEL LENGTHENER;GEMINATION MARK;HAMZA;CONSONANT MODIFIER",
     "GEMINATE CONSONANT MODIFIER;NUKTA;NASALIZATION MARK"]⟩,
   ⟨0x1e950, "ADLAM DIGIT ", ["ZERO;ONE;TWO;THREE;FOUR;FIVE;SIX;SEVEN;EIGHT;NINE"]⟩,
   ⟨0x1e95e, "ADLAM INITIAL ", ["EXCLAMATION MARK;QUESTION MARK"]⟩,
   ⟨0x1ec71, "INDIC SIYAQ NUMBER ",
    ["ONE;TWO;THREE;FOUR;FIVE;SIX;SEVEN;EIGHT;NINE;TEN;TWENTY;THIRTY;FORTY;FIFTY;SIXTY;SEVENTY",
     "EIGHTY;NINETY;ONE HUNDRED;TWO HUNDRED;THREE HUNDRED;FOUR HUNDRED;FIVE HUNDRED;SIX HUNDRED",
     "SEVEN HUNDRED;EIGHT HUNDRED;NINE HUNDRED;ONE THOUSAND;TWO THOUSAND;THREE THOUSAND",
     "FOUR THOUSAND;FIVE THOUSAND;SIX THOUSAND;SEVEN THOUSAND;EIGHT THOUSAND;NINE THOUSAND",
     "TEN THOUSAND;TWENTY THOUSAND;THIRTY THOUSAND;FORTY THOUSAND;FIFTY THOUSAND;SIXTY THOUSAND",
     "SEVENTY THOUSAND;EIGHTY THOUSAND;NINETY THOUSAND;LAKH;LAKHAN"]⟩,
   ⟨0x1eca0, "INDIC SIYAQ ", ["LAKH MARK;NUMBER KAROR;NUMBER KARORAN"]⟩,
   ⟨0x1eca3, "INDIC SIYAQ NUMBER PREFIXED ", ["ONE;TWO;THREE;FOUR;FIVE;SIX;SEVEN;EIGHT;NINE"]⟩,
   ⟨0x1ecac, "INDIC SIYAQ ",
    ["PLACEHOLDER;FRACTION ONE QUARTER;FRACTION ONE HALF;FRACTION THREE QUARTERS;RUPEE MARK",
     "NUMBER ALTERNATE ONE;NUMBER ALTERNATE TWO;NUMBER ALTERNATE TEN THOUSAND;ALTERNATE LAKH MARK"]⟩,
   ⟨0x1ed01, "OTTOMAN SIYAQ NUMBER ",
    ["ONE;TWO;THREE;FOUR;FIVE;SIX;SEVEN;EIGHT;NINE;TEN;TWENTY;THIRTY;FORTY;FIFTY;SIXTY;SEVENTY",
     "EIGHTY;NINETY;ONE HUNDRED;TWO HUNDRED;THREE HUNDRED;FOUR HUNDRED;FIVE HUNDRED;SIX HUNDRED",
     "SEVEN HUNDRED;EIGHT HUNDRED;NINE HUNDRED;ONE THOUSAND;TWO THOUSAND;THREE THOUSAND",
     "FOUR THOUSAND;FIVE THOUSAND;SIX THOUSAND;SEVEN THOUSAND;EIGHT THOUSAND;NINE THOUSAND",
     "TEN THOUSAND;TWENTY THOUSAND;THIRTY THOUSAND;FORTY THOUSAND;FIFTY THOUSAND;SIXTY THOUSAND",
     "SEVENTY THOUSAND;EIGHTY THOUSAND;NINETY THOUSAND"]⟩,
   ⟨0x1ed2e, "", ["OTTOMAN SIYAQ MARRATAN"]⟩,
   ⟨0x1ed2f, "OTTOMAN SIYAQ ALTERNATE NUMBER ",
    ["TWO;THREE;FOUR;FIVE;SIX;SEVEN;EIGHT;NINE;TEN;FOUR HUNDRED;SIX HUNDRED;TWO THOUSAND",
     "TEN THOUSAND"]⟩,
   ⟨0x1ed3c, "OTTOMAN SIYAQ FRACTION ONE ", ["HALF;SIXTH"]⟩,
   ⟨0x1ee00, "ARABIC MATHEMATICAL ", ["ALEF;BEH;JEEM;DAL"]⟩,
   ⟨0x1ee05, "ARABIC MATHEMATICAL ",
    ["WAW;ZAIN;HAH;TAH;YEH;KAF;LAM;MEEM;NOON;SEEN;AIN;FEH;SAD;QAF;REH;SHEEN;TEH;THEH;KHAH;THAL;DAD",
     "ZAH;GHAIN;DOTLESS BEH;DOTLESS NOON;DOTLESS FEH;DOTLESS QAF"]⟩,
   ⟨0x1ee21, "ARABIC MATHEMATICAL INITIAL ", ["BEH;JEEM"]⟩,
   ⟨0x1ee24, "", ["ARABIC MATHEMATICAL INITIAL HEH"]⟩,
   ⟨0x1ee27, "", ["ARABIC MATHEMATICAL INITIAL HAH"]⟩,
   ⟨0x1ee29, "ARABIC MATHEMATICAL INITIAL ", ["YEH;KAF;LAM;MEEM;NOON;SEEN;AIN;FEH;SAD;QAF"]⟩,
   ⟨0x1ee34, "ARABIC MATHEMATICAL INITIAL ", ["SHEEN;TEH;THEH;KHAH"]⟩,
   ⟨0x1ee39, "", ["ARABIC MATHEMATICAL INITIAL DAD"]⟩,
   ⟨0x1ee3b, "", ["ARABIC MATHEMATICAL INITIAL GHAIN"]⟩,
   ⟨0x1ee42, "", ["ARABIC MATHEMATICAL TAILED JEEM"]⟩,
   ⟨0x1ee47, "", ["ARABIC MATHEMATICAL TAILED HAH"]⟩,
   ⟨0x1ee49, "", ["ARABIC MATHEMATICAL TAILED YEH"]⟩,
   ⟨0x1ee4b, "", ["ARABIC MATHEMATICAL TAILED LAM"]⟩,
   ⟨0x1ee4d, "ARABIC MATHEMATICAL TAILED ", ["NOON;SEEN;AIN"]⟩,
   ⟨0x1ee51, "ARABIC MATHEMATICAL TAILED ", ["SAD;QAF"]⟩,
   ⟨0x1ee54, "", ["ARABIC MATHEMATICAL TAILED SHEEN"]⟩,
   ⟨0x1ee57, "", ["ARABIC MATHEMATICAL TAILED KHAH"]⟩,
   ⟨0x1ee59, "", ["ARABIC MATHEMATICAL TAILED DAD"]⟩,
   ⟨0x1ee5b, "", ["ARABIC MATHEMATICAL TAILED GHAIN"]⟩,
   ⟨0x1ee5d, "", ["ARABIC MATHEMATICAL TAILED DOTLESS NOON"]⟩,
   ⟨0x1ee5f, "", ["ARABIC MATHEMATICAL TAILED DOTLESS QAF"]⟩,
   ⟨0x1ee61, "ARABIC MATHEMATICAL STRETCHED ", ["BEH;JEEM"]⟩,
   ⟨0x1ee64, "", ["ARABIC MATHEMATICAL STRETCHED HEH"]⟩,
   ⟨0x1ee67, "ARABIC MATHEMATICAL STRETCHED ", ["HAH;TAH;YEH;KAF"]⟩,
   ⟨0x1ee6c, "ARABIC MATHEMATICAL STRETCHED ", ["MEEM;NOON;SEEN;AIN;FEH;SAD;QAF"]⟩,
   ⟨0x1ee74, "ARABIC MATHEMATICAL STRETCHED ", ["SHEEN;TEH;THEH;KHAH"]⟩,
   ⟨0x1ee79, "ARABIC MATHEMATICAL STRETCHED ", ["DAD;ZAH;GHAIN;DOTLESS BEH"]⟩,
   ⟨0x1ee7e, "", ["ARABIC MATHEMATICAL STRETCHED DOTLESS FEH"]⟩,
   ⟨0x1ee80, "ARABIC MATHEMATICAL LOOPED ", ["ALEF;BEH;JEEM;DAL;HEH;WAW;ZAIN;HAH;TAH;YEH"]⟩,
   ⟨0x1ee8b, "ARABIC MATHEMATICAL LOOPED ",
    ["LAM;MEEM;NOON;SEEN;AIN;FEH;SAD;QAF;REH;SHEEN;TEH;THEH;KHAH;THAL;DAD;ZAH;GHAIN"]⟩,
   ⟨0x1eea1, "ARABIC MATHEMATICAL DOUBLE-STRUCK ", ["BEH;JEEM;DAL"]⟩,
   ⟨0x1eea5, "ARABIC MATHEMATICAL DOUBLE-STRUCK ", ["WAW;ZAIN;HAH;TAH;YEH"]⟩,
   ⟨0x1eeab, "ARABIC MATHEMATICAL DOUBLE-STRUCK ",
    ["LAM;MEEM;NOON;SEEN;AIN;FEH;SAD;QAF;REH;SHEEN;TEH;THEH;KHAH;THAL;DAD;ZAH;GHAIN"]⟩,
   ⟨0x1eef0, "ARABIC MATHEMATICAL OPERATOR ", ["MEEM WITH HAH WITH TATWEEL;HAH WITH DAL"]⟩,
   ⟨0x1f000, "MAHJONG TILE ",
    ["EAST WIND;SOUTH WIND;WEST WIND;NORTH WIND;RED DRAGON;GREEN DRAGON;WHITE DRAGON",
     "ONE OF CHARACTERS;TWO OF CHARACTERS;THREE OF CHARACTERS;FOUR OF CHARACTERS",
     "FIVE OF CHARACTERS;SIX OF CHARACTERS;SEVEN OF CHARACTERS;EIGHT OF CHARACTERS",
     "NINE OF CHARACTERS;ONE OF BAMBOOS;TWO OF BAMBOOS;THREE OF BAMBOOS;FOUR OF BAMBOOS",
     "FIVE OF BAMBOOS;SIX OF BAMBOOS;SEVEN OF BAMBOOS;EIGHT OF BAMBOOS;NINE OF BAMBOOS",
     "ONE OF CIRCLES;TWO OF CIRCLES;THREE OF CIRCLES;FOUR OF CIRCLES;FIVE OF CIRCLES",
     "SIX OF CIRCLES;SEVEN OF CIRCLES;EIGHT OF CIRCLES;NINE OF CIRCLES;PLUM;ORCHID;BAMBOO",
     "CHRYSANTHEMUM;SPRING;SUMMER;AUTUMN;WINTER;JOKER;BACK"]⟩,
   ⟨0x1f030, "DOMINO TILE ",
    ["HORIZONTAL BACK;HORIZONTAL-00-00;HORIZONTAL-00-01;HORIZONTAL-00-02;HORIZONTAL-00-03",
     "HORIZONTAL-00-04;HORIZONTAL-00-05;HORIZONTAL-00-06;HORIZONTAL-01-00;HORIZONTAL-01-01",
     "HORIZONTAL-01-02;HORIZONTAL-01-03;HORIZONTAL-01-04;HORIZONTAL-01-05;HORIZONTAL-01-06",
     "HORIZONTAL-02-00;HORIZONTAL-02-01;HORIZONTAL-02-02;HORIZONTAL-02-03;HORIZONTAL-02-04",
     "HORIZONTAL-02-05;HORIZONTAL-02-06;HORIZONTAL-03-00;HORIZONTAL-03-01;HORIZONTAL-03-02",
     "HORIZONTAL-03-03;HORIZONTAL-03-04;HORIZONTAL-03-05;HORIZONTAL-03-06;HORIZONTAL-04-00",
     "HORIZONTAL-04-01;HORIZONTAL-04-02;HORIZONTAL-04-03;HORIZONTAL-04-04;HORIZONTAL-04-05",
     "HORIZONTAL-04-06;HORIZONTAL-05-00;HORIZONTAL-05-01;HORIZONTAL-05-02;HORIZONTAL-05-03",
     "HORIZONTAL-05-04;HORIZONTAL-05-05;HORIZONTAL-05-06;HORIZONTAL-06-00;HORIZONTAL-06-01",
     "HORIZONTAL-06-02;HORIZONTAL-06-03;HORIZONTAL-06-04;HORIZONTAL-06-05;HORIZONTAL-06-06",
     "VERTICAL BACK;VERTICAL-00-00;VERTICAL-00-01;VERTICAL-00-02;VERTICAL-00-03;VERTICAL-00-04",
     "VERTICAL-00-05;VERTICAL-00-06;VERTICAL-01-00;VERTICAL-01-01;VERTICAL-01-02;VERTICAL-01-03",
     "VERTICAL-01-04;VERTICAL-01-05;VERTICAL-01-06;VERTICAL-02-00;VERTICAL-02-01;VERTICAL-02-02",
     "VERTICAL-02-03;VERTICAL-02-04;VERTICAL-02-05;VERTICAL-02-06;VERTICAL-03-00;VERTICAL-03-01",
     "VERTICAL-03-02;VERTICAL-03-03;VERTICAL-03-04;VERTICAL-03-05;VERTICAL-03-06;VERTICAL-04-00",
     "VERTICAL-04-01;VERTICAL-04-02;VERTICAL-04-03;VERTICAL-04-04;VERTICAL-04-05;VERTICAL-04-06",
     "VERTICAL-05-00;VERTICAL-05-01;VERTICAL-05-02;VERTICAL-05-03;VERTICAL-05-04;VERTICAL-05-05",
     "VERTICAL-05-06;VERTICAL-06-00;VERTICAL-06-01;VERTICAL-06-02;VERTICAL-06-03;VERTICAL-06-04",
     "VERTICAL-06-05;VERTICAL-06-06"]⟩,
   ⟨0x1f0a0, "PLAYING CARD ",
    ["BACK;ACE OF SPADES;TWO OF SPADES;THREE OF SPADES;FOUR OF SPADES;FIVE OF SPADES;SIX OF SPADES",
     "SEVEN OF SPADES;EIGHT OF SPADES;NINE OF SPADES;TEN OF SPADES;JACK OF SPADES;KNIGHT OF SPADES",
     "QUEEN OF SPADES;KING OF SPADES"]⟩,
   ⟨0x1f0b1, "PLAYING CARD ",
    ["ACE OF HEARTS;TWO OF HEARTS;THREE OF HEARTS;FOUR OF HEARTS;FIVE OF HEARTS;SIX OF HEARTS",
     "SEVEN OF HEARTS;EIGHT OF HEARTS;NINE OF HEARTS;TEN OF HEARTS;JACK OF HEARTS;KNIGHT OF HEARTS",
     "QUEEN OF HEARTS;KING OF HEARTS;RED JOKER"]⟩,
   ⟨0x1f0c1, "PLAYING CARD ",
    ["ACE OF DIAMONDS;TWO OF DIAMONDS;THREE OF DIAMONDS;FOUR OF DIAMONDS;FIVE OF DIAMONDS",
     "SIX OF DIAMONDS;SEVEN OF DIAMONDS;EIGHT OF DIAMONDS;NINE OF DIAMONDS;TEN OF DIAMONDS",
     "JACK OF DIAMONDS;KNIGHT OF DIAMONDS;QUEEN OF DIAMONDS;KING OF DIAMONDS;BLACK JOKER"]⟩,
   ⟨0x1f0d1, "PLAYING CARD ",
    ["ACE OF CLUBS;TWO OF CLUBS;THREE OF CLUBS;FOUR OF CLUBS;FIVE OF CLUBS;SIX OF CLUBS",
     "SEVEN OF CLUBS;EIGHT OF CLUBS;NINE OF CLUBS;TEN OF CLUBS;JACK OF CLUBS;KNIGHT OF CLUBS",
     "QUEEN OF CLUBS;KING OF CLUBS;WHITE JOKER;FOOL;TRUMP-1;TRUMP-2;TRUMP-3;TRUMP-4;TRUMP-5",
     "TRUMP-6;TRUMP-7;TRUMP-8;TRUMP-9;TRUMP-10;TRUMP-11;TRUMP-12;TRUMP-13;TRUMP-14;TRUMP-15",
     "TRUMP-16;TRUMP-17;TRUMP-18;TRUMP-19;TRUMP-20;TRUMP-21"]⟩,
   ⟨0x1f100, "DIGIT ",
    ["ZERO FULL STOP;ZERO COMMA;ONE COMMA;TWO COMMA;THREE COMMA;FOUR COMMA;FIVE COMMA;SIX COMMA",
     "SEVEN COMMA;EIGHT COMMA;NINE COMMA"]⟩,
   ⟨0x1f10b, "DINGBAT ",
    ["CIRCLED SANS-SERIF DIGIT ZERO;NEGATIVE CIRCLED SANS-SERIF DIGIT ZERO"]⟩,
   ⟨0x1f10d, "CIRCLED ",
    ["ZERO WITH SLASH;ANTICLOCKWISE ARROW;DOLLAR SIGN WITH OVERLAID BACKSLASH"]⟩,
   ⟨0x1f110, "PARENTHESIZED LATIN CAPITAL LETTER ",
    ["A;B;C;D;E;F;G;H;I;J;K;L;M;N;O;P;Q;R;S;T;U;V;W;X;Y;Z"]⟩,
   ⟨0x1f12a, "",
    ["TORTOISE SHELL BRACKETED LATIN CAPITAL LETTER S;CIRCLED ITALIC LATIN CAPITAL LETTER C",
     "CIRCLED ITALIC LATIN CAPITAL LETTER R;CIRCLED CD;CIRCLED WZ;COPYLEFT SYMBOL"]⟩,
   ⟨0x1f130, "SQUARED LATIN CAPITAL LETTER ",
    ["A;B;C;D;E;F;G;H;I;J;K;L;M;N;O;P;Q;R;S;T;U;V;W;X;Y;Z"]⟩,
   ⟨0x1f14a, "SQUARED ", ["HV;MV;SD;SS;PPV;WC"]⟩,
   ⟨0x1f150, "NEGATIVE CIRCLED LATIN CAPITAL LETTER ",
    ["A;B;C;D;E;F;G;H;I;J;K;L;M;N;O;P;Q;R;S;T;U;V;W;X;Y;Z"]⟩,
   ⟨0x1f16a, "RAISED ", ["MC SIGN;MD SIGN;MR SIGN"]⟩,
   ⟨0x1f16d, "CIRCLED ", ["CC;C WITH OVERLAID BACKSLASH;HUMAN FIGURE"]⟩,
   ⟨0x1f170, "NEGATIVE SQUARED LATIN CAPITAL LETTER ",
    ["A;B;C;D;E;F;G;H;I;J;K;L;M;N;O;P;Q;R;S;T;U;V;W;X;Y;Z"]⟩,
   ⟨0x1f18a, "", ["CROSSED NEGATIVE SQUARED LATIN CAPITAL LETTER P"]⟩,
   ⟨0x1f18b, "NEGATIVE SQUARED ", ["IC;PA;SA;AB;WC"]⟩,
   ⟨0x1f190, "", ["SQUARE DJ"]⟩,
   ⟨0x1f191, "SQUARED ",
    ["CL;COOL;FREE;ID;NEW;NG;OK;SOS;UP WITH EXCLAMATION MARK;VS;THREE D;SECOND SCREEN;TWO K;FOUR K",
     "EIGHT K;FIVE POINT ONE;SEVEN POINT ONE;TWENTY-TWO POINT TWO;SIXTY P;ONE HUNDRED TWENTY P",
     "LATIN SMALL LETTER D;HC;HDR;HI-RES;LOSSLESS;SHV;UHD;VOD"]⟩,
   ⟨0x1f1ad, "", ["MASK WORK SYMBOL"]⟩,
   ⟨0x1f1e6, "REGIONAL INDICATOR SYMBOL LETTER ",
    ["A;B;C;D;E;F;G;H;I;J;K;L;M;N;O;P;Q;R;S;T;U;V;W;X;Y;Z"]⟩,
   ⟨0x1f200, "", ["SQUARE HIRAGANA HOKA;SQUARED KATAKANA KOKO;SQUARED KATAKANA SA"]⟩,
   ⟨0x1f210, "SQUARED ",
    ["CJK UNIFIED IDEOGRAPH-624B;CJK UNIFIED IDEOGRAPH-5B57;CJK UNIFIED IDEOGRAPH-53CC;KATAKANA DE"]⟩,
   ⟨0x1f214, "SQUARED CJK UNIFIED ",
    ["IDEOGRAPH-4E8C;IDEOGRAPH-591A;IDEOGRAPH-89E3;IDEOGRAPH-5929;IDEOGRAPH-4EA4;IDEOGRAPH-6620",
     "IDEOGRAPH-7121;IDEOGRAPH-6599;IDEOGRAPH-524D;IDEOGRAPH-5F8C;IDEOGRAPH-518D;IDEOGRAPH-65B0",
     "IDEOGRAPH-521D;IDEOGRAPH-7D42;IDEOGRAPH-751F;IDEOGRAPH-8CA9;IDEOGRAPH-58F0;IDEOGRAPH-5439",
     "IDEOGRAPH-6F14;IDEOGRAPH-6295;IDEOGRAPH-6355;IDEOGRAPH-4E00;IDEOGRAPH-4E09;IDEOGRAPH-904A",
     "IDEOGRAPH-5DE6;IDEOGRAPH-4E2D;IDEOGRAPH-53F3;IDEOGRAPH-6307;IDEOGRAPH-8D70;IDEOGRAPH-6253",
     "IDEOGRAPH-7981;IDEOGRAPH-7A7A;IDEOGRAPH-5408;IDEOGRAPH-6E80;IDEOGRAPH-6709;IDEOGRAPH-6708",
     "IDEOGRAPH-7533;IDEOGRAPH-5272;IDEOGRAPH-55B6;IDEOGRAPH-914D"]⟩,
   ⟨0x1f240, "TORTOISE SHELL BRACKETED CJK UNIFIED ",
    ["IDEOGRAPH-672C;IDEOGRAPH-4E09;IDEOGRAPH-4E8C;IDEOGRAPH-5B89;IDEOGRAPH-70B9;IDEOGRAPH-6253",
     "IDEOGRAPH-76D7;IDEOGRAPH-52DD;IDEOGRAPH-6557"]⟩,
   ⟨0x1f250, "CIRCLED IDEOGRAPH ", ["ADVANTAGE;ACCEPT"]⟩,
   ⟨0x1f260, "ROUNDED SYMBOL FOR ", ["FU;LU;SHOU;XI;SHUANGXI;CAI"]⟩,
   ⟨0x1f300, "",
    ["CYCLONE;FOGGY;CLOSED UMBRELLA;NIGHT WITH STARS;SUNRISE OVER MOUNTAINS;SUNRISE",
     "CITYSCAPE AT DUSK;SUNSET OVER BUILDINGS;RAINBOW;BRIDGE AT NIGHT;WATER WAVE;VOLCANO;MILKY WAY",
     "EARTH GLOBE EUROPE-AFRICA;EARTH GLOBE AMERICAS;EARTH GLOBE ASIA-AUSTRALIA",
     "GLOBE WITH MERIDIANS;NEW MOON SYMBOL;WAXING CRESCENT MOON SYMBOL;FIRST QUARTER MOON SYMBOL",
     "WAXING GIBBOUS MOON SYMBOL;FULL MOON SYMBOL;WANING GIBBOUS MOON SYMBOL",
     "LAST QUARTER MOON SYMBOL;WANING CRESCENT MOON SYMBOL;CRESCENT MOON;NEW MOON WITH FACE",
     "FIRST QUARTER MOON WITH FACE;LAST QUARTER MOON WITH FACE;FULL MOON WITH FACE;SUN WITH FACE",
     "GLOWING STAR;SHOOTING STAR;THERMOMETER;BLACK DROPLET;WHITE SUN;WHITE SUN WITH SMALL CLOUD",
     "WHITE SUN BEHIND CLOUD;WHITE SUN BEHIND CLOUD WITH RAIN;CLOUD WITH RAIN;CLOUD WITH SNOW",
     "CLOUD WITH LIGHTNING;CLOUD WITH TORNADO;FOG;WIND BLOWING FACE;HOT DOG;TACO;BURRITO;CHESTNUT",
     "SEEDLING;EVERGREEN TREE;DECIDUOUS TREE;PALM TREE;CACTUS;HOT PEPPER;TULIP;CHERRY BLOSSOM;ROSE",
     "HIBISCUS;SUNFLOWER;BLOSSOM;EAR OF MAIZE;EAR OF RICE;HERB;FOUR LEAF CLOVER;MAPLE LEAF",
     "FALLEN LEAF;LEAF FLUTTERING IN WIND;MUSHROOM;TOMATO;AUBERGINE;GRAPES;MELON;WATERMELON",
     "TANGERINE;LEMON;BANANA;PINEAPPLE;RED APPLE;GREEN APPLE;PEAR;PEACH;CHERRIES;STRAWBERRY",
     "HAMBURGER;SLICE OF PIZZA;MEAT ON BONE;POULTRY LEG;RICE CRACKER;RICE BALL;COOKED RICE",
     "CURRY AND RICE;STEAMING BOWL;SPAGHETTI;BREAD;FRENCH FRIES;ROASTED SWEET POTATO;DANGO;ODEN",
     "SUSHI;FRIED SHRIMP;FISH CAKE WITH SWIRL DESIGN;SOFT ICE CREAM;SHAVED ICE;ICE CREAM;DOUGHNUT",
     "COOKIE;CHOCOLATE BAR;CANDY;LOLLIPOP;CUSTARD;HONEY POT;SHORTCAKE;BENTO BOX;POT OF FOOD",
     "COOKING;FORK AND KNIFE;TEACUP WITHOUT HANDLE;SAKE BOTTLE AND CUP;WINE GLASS;COCKTAIL GLASS",
     "TROPICAL DRINK;BEER MUG;CLINKING BEER MUGS;BABY BOTTLE;FORK AND KNIFE WITH PLATE",
     "BOTTLE WITH POPPING CORK;POPCORN;RIBBON;WRAPPED PRESENT;BIRTHDAY CAKE;JACK-O-LANTERN",
     "CHRISTMAS TREE;FATHER CHRISTMAS;FIREWORKS;FIREWORK SPARKLER;BALLOON;PARTY POPPER",
     "CONFETTI BALL;TANABATA TREE;CROSSED FLAGS;PINE DECORATION;JAPANESE DOLLS;CARP STREAMER",
     "WIND CHIME;MOON VIEWING CEREMONY;SCHOOL SATCHEL;GRADUATION CAP;HEART WITH TIP ON THE LEFT",
     "BOUQUET OF FLOWERS;MILITARY MEDAL;REMINDER RIBBON;MUSICAL KEYBOARD WITH JACKS",
     "STUDIO MICROPHONE;LEVEL SLIDER;CONTROL KNOBS;BEAMED ASCENDING MUSICAL NOTES",
     "BEAMED DESCENDING MUSICAL NOTES;FILM FRAMES"]⟩,
   ⟨0x1f39f, "",
    ["ADMISSION TICKETS;CAROUSEL HORSE;FERRIS WHEEL;ROLLER COASTER;FISHING POLE AND FISH",
     "MICROPHONE;MOVIE CAMERA;CINEMA;HEADPHONE;ARTIST PALETTE;TOP HAT;CIRCUS TENT;TICKET",
     "CLAPPER BOARD;PERFORMING ARTS;VIDEO GAME;DIRECT HIT;SLOT MACHINE;BILLIARDS;GAME DIE;BOWLING",
     "FLOWER PLAYING CARDS;MUSICAL NOTE;MULTIPLE MUSICAL NOTES;SAXOPHONE;GUITAR;MUSICAL KEYBOARD",
     "TRUMPET;VIOLIN;MUSICAL SCORE;RUNNING SHIRT WITH SASH;TENNIS RACQUET AND BALL",
     "SKI AND SKI BOOT;BASKETBALL AND HOOP;CHEQUERED FLAG;SNOWBOARDER;RUNNER;SURFER;SPORTS MEDAL",
     "TROPHY;HORSE RACING;AMERICAN FOOTBALL;RUGBY FOOTBALL;SWIMMER;WEIGHT LIFTER;GOLFER",
     "RACING MOTORCYCLE;RACING CAR;CRICKET BAT AND BALL;VOLLEYBALL;FIELD HOCKEY STICK AND BALL",
     "ICE HOCKEY STICK AND PUCK;TABLE TENNIS PADDLE AND BALL;SNOW CAPPED MOUNTAIN;CAMPING",
     "BEACH WITH UMBRELLA;BUILDING CONSTRUCTION;HOUSE BUILDINGS;CITYSCAPE;DERELICT HOUSE BUILDING",
     "CLASSICAL BUILDING;DESERT;DESERT ISLAND;NATIONAL PARK;STADIUM;HOUSE BUILDING",
     "HOUSE WITH GARDEN;OFFICE BUILDING;JAPANESE POST OFFICE;EUROPEAN POST OFFICE;HOSPITAL;BANK",
     "AUTOMATED TELLER MACHINE;HOTEL;LOVE HOTEL;CONVENIENCE STORE;SCHOOL;DEPARTMENT STORE;FACTORY",
     "IZAKAYA LANTERN;JAPANESE CASTLE;EUROPEAN CASTLE;WHITE PENNANT;BLACK PENNANT",
     "WAVING WHITE FLAG;WAVING BLACK FLAG;ROSETTE;BLACK ROSETTE;LABEL",
     "BADMINTON RACQUET AND SHUTTLECOCK;BOW AND ARROW;AMPHORA"]⟩,
   ⟨0x1f3fb, "EMOJI MODIFIER FITZPATRICK ", ["TYPE-1-2;TYPE-3;TYPE-4;TYPE-5;TYPE-6"]⟩,
   ⟨0x1f400, "",
    ["RAT;MOUSE;OX;WATER BUFFALO;COW;TIGER;LEOPARD;RABBIT;CAT;DRAGON;CROCODILE;WHALE;SNAIL;SNAKE",
     "HORSE;RAM;GOAT;SHEEP;MONKEY;ROOSTER;CHICKEN;DOG;PIG;BOAR;ELEPHANT;OCTOPUS;SPIRAL SHELL;BUG",
     "ANT;HONEYBEE;LADY BEETLE;FISH;TROPICAL FISH;BLOWFISH;TURTLE;HATCHING CHICK;BABY CHICK",
     "FRONT-FACING BABY CHICK;BIRD;PENGUIN;KOALA;POODLE;DROMEDARY CAMEL;BACTRIAN CAMEL;DOLPHIN",
     "MOUSE FACE;COW FACE;TIGER FACE;RABBIT FACE;CAT FACE;DRAGON FACE;SPOUTING WHALE;HORSE FACE",
     "MONKEY FACE;DOG FACE;PIG FACE;FROG FACE;HAMSTER FACE;WOLF FACE;BEAR FACE;PANDA FACE;PIG NOSE",
     "PAW PRINTS;CHIPMUNK;EYES;EYE;EAR;NOSE;MOUTH;TONGUE;WHITE UP POINTING BACKHAND INDEX",
     "WHITE DOWN POINTING BACKHAND INDEX;WHITE LEFT POINTING BACKHAND INDEX",
     "WHITE RIGHT POINTING BACKHAND INDEX;FISTED HAND SIGN;WAVING HAND SIGN;OK HAND SIGN",
     "THUMBS UP SIGN;THUMBS DOWN SIGN;CLAPPING HANDS SIGN;OPEN HANDS SIGN;CROWN;WOMANS HAT",
     "EYEGLASSES;NECKTIE;T-SHIRT;JEANS;DRESS;KIMONO;BIKINI;WOMANS CLOTHES;PURSE;HANDBAG;POUCH",
     "MANS SHOE;ATHLETIC SHOE;HIGH-HEELED SHOE;WOMANS SANDAL;WOMANS BOOTS;FOOTPRINTS",
     "BUST IN SILHOUETTE;BUSTS IN SILHOUETTE;BOY;GIRL;MAN;WOMAN;FAMILY;MAN AND WOMAN HOLDING HANDS",
     "TWO MEN HOLDING HANDS;TWO WOMEN HOLDING HANDS;POLICE OFFICER;WOMAN WITH BUNNY EARS",
     "BRIDE WITH VEIL;PERSON WITH BLOND HAIR;MAN WITH GUA PI MAO;MAN WITH TURBAN;OLDER MAN",
     "OLDER WOMAN;BABY;CONSTRUCTION WORKER;PRINCESS;JAPANESE OGRE;JAPANESE GOBLIN;GHOST;BABY ANGEL",
     "EXTRATERRESTRIAL ALIEN;ALIEN MONSTER;IMP;SKULL;INFORMATION DESK PERSON;GUARDSMAN;DANCER",
     "LIPSTICK;NAIL POLISH;FACE MASSAGE;HAIRCUT;BARBER POLE;SYRINGE;PILL;KISS MARK;LOVE LETTER",
     "RING;GEM STONE;KISS;BOUQUET;COUPLE WITH HEART;WEDDING;BEATING HEART;BROKEN HEART;TWO HEARTS",
     "SPARKLING HEART;GROWING HEART;HEART WITH ARROW;BLUE HEART;GREEN HEART;YELLOW HEART",
     "PURPLE HEART;HEART WITH RIBBON;REVOLVING HEARTS"]⟩,
   ⟨0x1f49f, "",
    ["HEART DECORATION;DIAMOND SHAPE WITH A DOT INSIDE;ELECTRIC LIGHT BULB;ANGER SYMBOL;BOMB",
     "SLEEPING SYMBOL;COLLISION SYMBOL;SPLASHING SWEAT SYMBOL;DROPLET;DASH SYMBOL;PILE OF POO",
     "FLEXED BICEPS;DIZZY SYMBOL;SPEECH BALLOON;THOUGHT BALLOON;WHITE FLOWER;HUNDRED POINTS SYMBOL",
     "MONEY BAG;CURRENCY EXCHANGE;HEAVY DOLLAR SIGN;CREDIT CARD;BANKNOTE WITH YEN SIGN",
     "BANKNOTE WITH DOLLAR SIGN;BANKNOTE WITH EURO SIGN;BANKNOTE WITH POUND SIGN;MONEY WITH WINGS",
     "CHART WITH UPWARDS TREND AND YEN SIGN;SEAT;PERSONAL COMPUTER;BRIEFCASE;MINIDISC;FLOPPY DISK",
     "OPTICAL DISC;DVD;FILE FOLDER;OPEN FILE FOLDER;PAGE WITH CURL;PAGE FACING UP;CALENDAR",
     "TEAR-OFF CALENDAR;CARD INDEX;CHART WITH UPWARDS TREND;CHART WITH DOWNWARDS TREND;BAR CHART",
     "CLIPBOARD;PUSHPIN;ROUND PUSHPIN;PAPERCLIP;STRAIGHT RULER;TRIANGULAR RULER;BOOKMARK TABS",
     "LEDGER;NOTEBOOK;NOTEBOOK WITH DECORATIVE COVER;CLOSED BOOK;OPEN BOOK;GREEN BOOK;BLUE BOOK",
     "ORANGE BOOK;BOOKS;NAME BADGE;SCROLL;MEMO;TELEPHONE RECEIVER;PAGER;FAX MACHINE",
     "SATELLITE ANTENNA;PUBLIC ADDRESS LOUDSPEAKER;CHEERING MEGAPHONE;OUTBOX TRAY;INBOX TRAY",
     "PACKAGE;E-MAIL SYMBOL;INCOMING ENVELOPE;ENVELOPE WITH DOWNWARDS ARROW ABOVE",
     "CLOSED MAILBOX WITH LOWERED FLAG;CLOSED MAILBOX WITH RAISED FLAG",
     "OPEN MAILBOX WITH RAISED FLAG;OPEN MAILBOX WITH LOWERED FLAG;POSTBOX;POSTAL HORN;NEWSPAPER",
     "MOBILE PHONE;MOBILE PHONE WITH RIGHTWARDS ARROW AT LEFT;VIBRATION MODE;MOBILE PHONE OFF",
     "NO MOBILE PHONES;ANTENNA WITH BARS;CAMERA;CAMERA WITH FLASH;VIDEO CAMERA;TELEVISION;RADIO",
     "VIDEOCASSETTE;FILM PROJECTOR;PORTABLE STEREO;PRAYER BEADS;TWISTED RIGHTWARDS ARROWS",
     "CLOCKWISE RIGHTWARDS AND LEFTWARDS OPEN CIRCLE ARROWS",
     "CLOCKWISE RIGHTWARDS AND LEFTWARDS OPEN CIRCLE ARROWS WITH CIRCLED ONE OVERLAY",
     "CLOCKWISE DOWNWARDS AND UPWARDS OPEN CIRCLE ARROWS",
     "ANTICLOCKWISE DOWNWARDS AND UPWARDS OPEN CIRCLE ARROWS;LOW BRIGHTNESS SYMBOL",
     "HIGH BRIGHTNESS SYMBOL;SPEAKER WITH CANCELLATION STROKE;SPEAKER;SPEAKER WITH ONE SOUND WAVE",
     "SPEAKER WITH THREE SOUND WAVES;BATTERY;ELECTRIC PLUG;LEFT-POINTING MAGNIFYING GLASS",
     "RIGHT-POINTING MAGNIFYING GLASS;LOCK WITH INK PEN;CLOSED LOCK WITH KEY;KEY;LOCK;OPEN LOCK",
     "BELL;BELL WITH CANCELLATION STROKE;BOOKMARK;LINK SYMBOL;RADIO BUTTON",
     "BACK WITH LEFTWARDS ARROW ABOVE;END WITH LEFTWARDS ARROW ABOVE",
     "ON WITH EXCLAMATION MARK WITH LEFT RIGHT ARROW ABOVE;SOON WITH RIGHTWARDS ARROW ABOVE",
     "TOP WITH UPWARDS ARROW ABOVE;NO ONE UNDER EIGHTEEN SYMBOL;KEYCAP TEN"]⟩,
   ⟨0x1f520, "INPUT SYMBOL FOR ",
    ["LATIN CAPITAL LETTERS;LATIN SMALL LETTERS;NUMBERS;SYMBOLS;LATIN LETTERS"]⟩,
   ⟨0x1f525, "",
    ["FIRE;ELECTRIC TORCH;WRENCH;HAMMER;NUT AND BOLT;HOCHO;PISTOL;MICROSCOPE;TELESCOPE",
     "CRYSTAL BALL;SIX POINTED STAR WITH MIDDLE DOT;JAPANESE SYMBOL FOR BEGINNER;TRIDENT EMBLEM",
     "BLACK SQUARE BUTTON;WHITE SQUARE BUTTON;LARGE RED CIRCLE;LARGE BLUE CIRCLE",
     "LARGE ORANGE DIAMOND;LARGE BLUE DIAMOND;SMALL ORANGE DIAMOND;SMALL BLUE DIAMOND",
     "UP-POINTING RED TRIANGLE;DOWN-POINTING RED TRIANGLE;UP-POINTING SMALL RED TRIANGLE",
     "DOWN-POINTING SMALL RED TRIANGLE;LOWER RIGHT SHADOWED WHITE CIRCLE",
     "UPPER RIGHT SHADOWED WHITE CIRCLE;CIRCLED CROSS POMMEE;CROSS POMMEE WITH HALF-CIRCLE BELOW",
     "CROSS POMMEE;NOTCHED LEFT SEMICIRCLE WITH THREE DOTS",
     "NOTCHED RIGHT SEMICIRCLE WITH THREE DOTS;SYMBOL FOR MARKS CHAPTER;WHITE LATIN CROSS",
     "HEAVY LATIN CROSS;CELTIC CROSS;OM SYMBOL;DOVE OF PEACE;KAABA;MOSQUE;SYNAGOGUE",
     "MENORAH WITH NINE BRANCHES;BOWL OF HYGIEIA"]⟩,
   ⟨0x1f550, "CLOCK FACE ",
    ["ONE OCLOCK;TWO OCLOCK;THREE OCLOCK;FOUR OCLOCK;FIVE OCLOCK;SIX OCLOCK;SEVEN OCLOCK",
     "EIGHT OCLOCK;NINE OCLOCK;TEN OCLOCK;ELEVEN OCLOCK;TWELVE OCLOCK;ONE-THIRTY;TWO-THIRTY",
     "THREE-THIRTY;FOUR-THIRTY;FIVE-THIRTY;SIX-THIRTY;SEVEN-THIRTY;EIGHT-THIRTY;NINE-THIRTY",
     "TEN-THIRTY;ELEVEN-THIRTY;TWELVE-THIRTY"]⟩,
   ⟨0x1f568, "",
    ["RIGHT SPEAKER;RIGHT SPEAKER WITH ONE SOUND WAVE;RIGHT SPEAKER WITH THREE SOUND WAVES",
     "BULLHORN;BULLHORN WITH SOUND WAVES;RINGING BELL;BOOK;CANDLE;MANTELPIECE CLOCK",
     "BLACK SKULL AND CROSSBONES;NO PIRACY;HOLE;MAN IN BUSINESS SUIT LEVITATING;SLEUTH OR SPY",
     "DARK SUNGLASSES;SPIDER;SPIDER WEB;JOYSTICK;MAN DANCING;LEFT HAND TELEPHONE RECEIVER",
     "TELEPHONE RECEIVER WITH PAGE;RIGHT HAND TELEPHONE RECEIVER;WHITE TOUCHTONE TELEPHONE",
     "BLACK TOUCHTONE TELEPHONE;TELEPHONE ON TOP OF MODEM;CLAMSHELL MOBILE PHONE;BACK OF ENVELOPE",
     "STAMPED ENVELOPE;ENVELOPE WITH LIGHTNING;FLYING ENVELOPE;PEN OVER STAMPED ENVELOPE",
     "LINKED PAPERCLIPS;BLACK PUSHPIN;LOWER LEFT PENCIL;LOWER LEFT BALLPOINT PEN",
     "LOWER LEFT FOUNTAIN PEN;LOWER LEFT PAINTBRUSH;LOWER LEFT CRAYON;LEFT WRITING HAND",
     "TURNED OK HAND SIGN;RAISED HAND WITH FINGERS SPLAYED",
     "REVERSED RAISED HAND WITH FINGERS SPLAYED;REVERSED THUMBS UP SIGN;REVERSED THUMBS DOWN SIGN",
     "REVERSED VICTORY HAND;REVERSED HAND WITH MIDDLE FINGER EXTENDED",
     "RAISED HAND WITH PART BETWEEN MIDDLE AND RING FINGERS;WHITE DOWN POINTING LEFT HAND INDEX",
     "SIDEWAYS WHITE LEFT POINTING INDEX;SIDEWAYS WHITE RIGHT POINTING INDEX",
     "SIDEWAYS BLACK LEFT POINTING INDEX;SIDEWAYS BLACK RIGHT POINTING INDEX",
     "BLACK LEFT POINTING BACKHAND INDEX;BLACK RIGHT POINTING BACKHAND INDEX",
     "SIDEWAYS WHITE UP POINTING INDEX;SIDEWAYS WHITE DOWN POINTING INDEX",
     "SIDEWAYS BLACK UP POINTING INDEX;SIDEWAYS BLACK DOWN POINTING INDEX",
     "BLACK UP POINTING BACKHAND INDEX;BLACK DOWN POINTING BACKHAND INDEX;BLACK HEART",
     "DESKTOP COMPUTER;KEYBOARD AND MOUSE;THREE NETWORKED COMPUTERS;PRINTER;POCKET CALCULATOR",
     "BLACK HARD SHELL FLOPPY DISK;WHITE HARD SHELL FLOPPY DISK;SOFT SHELL FLOPPY DISK",
     "TAPE CARTRIDGE;WIRED KEYBOARD;ONE BUTTON MOUSE;TWO BUTTON MOUSE;THREE BUTTON MOUSE;TRACKBALL",
     "OLD PERSONAL COMPUTER;HARD DISK;SCREEN;PRINTER ICON;FAX ICON;OPTICAL DISC ICON",
     "DOCUMENT WITH TEXT;DOCUMENT WITH TEXT AND PICTURE;DOCUMENT WITH PICTURE;FRAME WITH PICTURE",
     "FRAME WITH TILES;FRAME WITH AN X;BLACK FOLDER;FOLDER;OPEN FOLDER;CARD INDEX DIVIDERS",
     "CARD FILE BOX;FILE CABINET;EMPTY NOTE;EMPTY NOTE PAGE;EMPTY NOTE PAD;NOTE;NOTE PAGE;NOTE PAD",
     "EMPTY DOCUMENT;EMPTY PAGE;EMPTY PAGES;DOCUMENT;PAGE;PAGES;WASTEBASKET;SPIRAL NOTE PAD",
     "SPIRAL CALENDAR PAD;DESKTOP WINDOW;MINIMIZE;MAXIMIZE;OVERLAP",
     "CLOCKWISE RIGHT AND LEFT SEMICIRCLE ARROWS;CANCELLATION X;INCREASE FONT SIZE SYMBOL",
     "DECREASE FONT SIZE SYMBOL;COMPRESSION;OLD KEY;ROLLED-UP NEWSPAPER;PAGE WITH CIRCLED TEXT",
     "STOCK CHART;DAGGER KNIFE;LIPS;SPEAKING HEAD IN SILHOUETTE;THREE RAYS ABOVE;THREE RAYS BELOW",
     "THREE RAYS LEFT;THREE RAYS RIGHT;LEFT SPEECH BUBBLE;RIGHT SPEECH BUBBLE;TWO SPEECH BUBBLES",
     "THREE SPEECH BUBBLES;LEFT THOUGHT BUBBLE;RIGHT THOUGHT BUBBLE;LEFT ANGER BUBBLE",
     "RIGHT ANGER BUBBLE;MOOD BUBBLE;LIGHTNING MOOD BUBBLE;LIGHTNING MOOD;BALLOT BOX WITH BALLOT",
     "BALLOT SCRIPT X;BALLOT BOX WITH SCRIPT X;BALLOT BOLD SCRIPT X;BALLOT BOX WITH BOLD SCRIPT X",
     "LIGHT CHECK MARK;BALLOT BOX WITH BOLD CHECK;WORLD MAP;MOUNT FUJI;TOKYO TOWER",
     "STATUE OF LIBERTY;SILHOUETTE OF JAPAN;MOYAI;GRINNING FACE;GRINNING FACE WITH SMILING EYES",
     "FACE WITH TEARS OF JOY"]⟩,
   ⟨0x1f603, "SMILING FACE WITH ",
    ["OPEN MOUTH;OPEN MOUTH AND SMILING EYES;OPEN MOUTH AND COLD SWEAT",
     "OPEN MOUTH AND TIGHTLY-CLOSED EYES;HALO;HORNS"]⟩,
   ⟨0x1f609, "",
    ["WINKING FACE;SMILING FACE WITH SMILING EYES;FACE SAVOURING DELICIOUS FOOD;RELIEVED FACE",
     "SMILING FACE WITH HEART-SHAPED EYES;SMILING FACE WITH SUNGLASSES;SMIRKING FACE;NEUTRAL FACE",
     "EXPRESSIONLESS FACE;UNAMUSED FACE;FACE WITH COLD SWEAT;PENSIVE FACE;CONFUSED FACE",
     "CONFOUNDED FACE;KISSING FACE;FACE THROWING A KISS;KISSING FACE WITH SMILING EYES",
     "KISSING FACE WITH CLOSED EYES;FACE WITH STUCK-OUT TONGUE",
     "FACE WITH STUCK-OUT TONGUE AND WINKING EYE",
     "FACE WITH STUCK-OUT TONGUE AND TIGHTLY-CLOSED EYES;DISAPPOINTED FACE;WORRIED FACE;ANGRY FACE",
     "POUTING FACE;CRYING FACE;PERSEVERING FACE;FACE WITH LOOK OF TRIUMPH",
     "DISAPPOINTED BUT RELIEVED FACE;FROWNING FACE WITH OPEN MOUTH;ANGUISHED FACE;FEARFUL FACE",
     "WEARY FACE;SLEEPY FACE;TIRED FACE;GRIMACING FACE;LOUDLY CRYING FACE;FACE WITH OPEN MOUTH",
     "HUSHED FACE;FACE WITH OPEN MOUTH AND COLD SWEAT;FACE SCREAMING IN FEAR;ASTONISHED FACE",
     "FLUSHED FACE;SLEEPING FACE;DIZZY FACE;FACE WITHOUT MOUTH;FACE WITH MEDICAL MASK",
     "GRINNING CAT FACE WITH SMILING EYES;CAT FACE WITH TEARS OF JOY",
     "SMILING CAT FACE WITH OPEN MOUTH;SMILING CAT FACE WITH HEART-SHAPED EYES",
     "CAT FACE WITH WRY SMILE;KISSING CAT FACE WITH CLOSED EYES;POUTING CAT FACE;CRYING CAT FACE",
     "WEARY CAT FACE;SLIGHTLY FROWNING FACE;SLIGHTLY SMILING FACE;UPSIDE-DOWN FACE",
     "FACE WITH ROLLING EYES;FACE WITH NO GOOD GESTURE;FACE WITH OK GESTURE;PERSON BOWING DEEPLY",
     "SEE-NO-EVIL MONKEY;HEAR-NO-EVIL MONKEY;SPEAK-NO-EVIL MONKEY;HAPPY PERSON RAISING ONE HAND",
     "PERSON RAISING BOTH HANDS IN CELEBRATION;PERSON FROWNING;PERSON WITH POUTING FACE",
     "PERSON WITH FOLDED HANDS;NORTH WEST POINTING LEAF;SOUTH WEST POINTING LEAF",
     "NORTH EAST POINTING LEAF;SOUTH EAST POINTING LEAF;TURNED NORTH WEST POINTING LEAF",
     "TURNED SOUTH WEST POINTING LEAF;TURNED NORTH EAST POINTING LEAF",
     "TURNED SOUTH EAST POINTING LEAF;NORTH WEST POINTING VINE LEAF;SOUTH WEST POINTING VINE LEAF",
     "NORTH EAST POINTING VINE LEAF;SOUTH EAST POINTING VINE LEAF",
     "HEAVY NORTH WEST POINTING VINE LEAF;HEAVY SOUTH WEST POINTING VINE LEAF",
     "HEAVY NORTH EAST POINTING VINE LEAF;HEAVY SOUTH EAST POINTING VINE LEAF",
     "NORTH WEST POINTING BUD;SOUTH WEST POINTING BUD;NORTH EAST POINTING BUD",
     "SOUTH EAST POINTING BUD;HEAVY NORTH WEST POINTING BUD;HEAVY SOUTH WEST POINTING BUD",
     "HEAVY NORTH EAST POINTING BUD;HEAVY SOUTH EAST POINTING BUD;HOLLOW QUILT SQUARE ORNAMENT",
     "HOLLOW QUILT SQUARE ORNAMENT IN BLACK SQUARE;SOLID QUILT SQUARE ORNAMENT",
     "SOLID QUILT SQUARE ORNAMENT IN BLACK SQUARE;LEFTWARDS ROCKET;UPWARDS ROCKET",
     "RIGHTWARDS ROCKET;DOWNWARDS ROCKET;SCRIPT LIGATURE ET ORNAMENT",
     "HEAVY SCRIPT LIGATURE ET ORNAMENT;LIGATURE OPEN ET ORNAMENT;HEAVY LIGATURE OPEN ET ORNAMENT",
     "HEAVY AMPERSAND ORNAMENT;SWASH AMPERSAND ORNAMENT"]⟩,
   ⟨0x1f676, "SANS-SERIF HEAVY ",
    ["DOUBLE TURNED COMMA QUOTATION MARK ORNAMENT;DOUBLE COMMA QUOTATION MARK ORNAMENT",
     "LOW DOUBLE COMMA QUOTATION MARK ORNAMENT"]⟩,
   ⟨0x1f679, "",
    ["HEAVY INTERROBANG ORNAMENT;SANS-SERIF INTERROBANG ORNAMENT",
     "HEAVY SANS-SERIF INTERROBANG ORNAMENT;VERY HEAVY SOLIDUS;VERY HEAVY REVERSE SOLIDUS",
     "CHECKER BOARD;REVERSE CHECKER BOARD;ROCKET;HELICOPTER;STEAM LOCOMOTIVE;RAILWAY CAR",
     "HIGH-SPEED TRAIN;HIGH-SPEED TRAIN WITH BULLET NOSE;TRAIN;METRO;LIGHT RAIL;STATION;TRAM",
     "TRAM CAR;BUS;ONCOMING BUS;TROLLEYBUS;BUS STOP;MINIBUS;AMBULANCE;FIRE ENGINE;POLICE CAR",
     "ONCOMING POLICE CAR;TAXI;ONCOMING TAXI;AUTOMOBILE;ONCOMING AUTOMOBILE;RECREATIONAL VEHICLE",
     "DELIVERY TRUCK;ARTICULATED LORRY;TRACTOR;MONORAIL;MOUNTAIN RAILWAY;SUSPENSION RAILWAY",
     "MOUNTAIN CABLEWAY;AERIAL TRAMWAY;SHIP;ROWBOAT;SPEEDBOAT;HORIZONTAL TRAFFIC LIGHT",
     "VERTICAL TRAFFIC LIGHT;CONSTRUCTION SIGN;POLICE CARS REVOLVING LIGHT;TRIANGULAR FLAG ON POST",
     "DOOR;NO ENTRY SIGN;SMOKING SYMBOL;NO SMOKING SYMBOL;PUT LITTER IN ITS PLACE SYMBOL",
     "DO NOT LITTER SYMBOL;POTABLE WATER SYMBOL;NON-POTABLE WATER SYMBOL;BICYCLE;NO BICYCLES",
     "BICYCLIST;MOUNTAIN BICYCLIST;PEDESTRIAN;NO PEDESTRIANS;CHILDREN CROSSING;MENS SYMBOL",
     "WOMENS SYMBOL;RESTROOM;BABY SYMBOL;TOILET;WATER CLOSET;SHOWER;BATH;BATHTUB;PASSPORT CONTROL",
     "CUSTOMS;BAGGAGE CLAIM;LEFT LUGGAGE;TRIANGLE WITH ROUNDED CORNERS;PROHIBITED SIGN",
     "CIRCLED INFORMATION SOURCE;BOYS SYMBOL;GIRLS SYMBOL;COUCH AND LAMP;SLEEPING ACCOMMODATION",
     "SHOPPING BAGS;BELLHOP BELL;BED;PLACE OF WORSHIP;OCTAGONAL SIGN;SHOPPING TROLLEY;STUPA;PAGODA",
     "HINDU TEMPLE;HUT;ELEVATOR"]⟩,
   ⟨0x1f6dd, "",
    ["PLAYGROUND SLIDE;WHEEL;RING BUOY;HAMMER AND WRENCH;SHIELD;OIL DRUM;MOTORWAY;RAILWAY TRACK",
     "MOTOR BOAT;UP-POINTING MILITARY AIRPLANE;UP-POINTING AIRPLANE;UP-POINTING SMALL AIRPLANE",
     "SMALL AIRPLANE;NORTHEAST-POINTING AIRPLANE;AIRPLANE DEPARTURE;AIRPLANE ARRIVING"]⟩,
   ⟨0x1f6f0, "",
    ["SATELLITE;ONCOMING FIRE ENGINE;DIESEL LOCOMOTIVE;PASSENGER SHIP;SCOOTER;MOTOR SCOOTER;CANOE",
     "SLED;FLYING SAUCER;SKATEBOARD;AUTO RICKSHAW;PICKUP TRUCK;ROLLER SKATE"]⟩,
   ⟨0x1f700, "ALCHEMICAL SYMBOL FOR ",
    ["QUINTESSENCE;AIR;FIRE;EARTH;WATER;AQUAFORTIS;AQUA REGIA;AQUA REGIA-2;AQUA VITAE;AQUA VITAE-2",
     "VINEGAR;VINEGAR-2;VINEGAR-3;SULFUR;PHILOSOPHERS SULFUR;BLACK SULFUR;MERCURY SUBLIMATE",
     "MERCURY SUBLIMATE-2;MERCURY SUBLIMATE-3;CINNABAR;SALT;NITRE;VITRIOL;VITRIOL-2;ROCK SALT",
     "ROCK SALT-2;GOLD;SILVER;IRON ORE;IRON ORE-2;CROCUS OF IRON;REGULUS OF IRON;COPPER ORE",
     "IRON-COPPER ORE;SUBLIMATE OF COPPER;CROCUS OF COPPER;CROCUS OF COPPER-2;COPPER ANTIMONIATE",
     "SALT OF COPPER ANTIMONIATE;SUBLIMATE OF SALT OF COPPER;VERDIGRIS;TIN ORE;LEAD ORE",
     "ANTIMONY ORE;SUBLIMATE OF ANTIMONY;SALT OF ANTIMONY;SUBLIMATE OF SALT OF ANTIMONY",
     "VINEGAR OF ANTIMONY;REGULUS OF ANTIMONY;REGULUS OF ANTIMONY-2;REGULUS;REGULUS-2;REGULUS-3",
     "REGULUS-4;ALKALI;ALKALI-2;MARCASITE;SAL-AMMONIAC;ARSENIC;REALGAR;REALGAR-2;AURIPIGMENT",
     "BISMUTH ORE;TARTAR;TARTAR-2;QUICK LIME;BORAX;BORAX-2;BORAX-3;ALUM;OIL;SPIRIT;TINCTURE;GUM",
     "WAX;POWDER;CALX;TUTTY;CAPUT MORTUUM;SCEPTER OF JOVE;CADUCEUS;TRIDENT;STARRED TRIDENT",
     "LODESTONE;SOAP;URINE;HORSE DUNG;ASHES;POT ASHES;BRICK;POWDERED BRICK;AMALGAM",
     "STRATUM SUPER STRATUM;STRATUM SUPER STRATUM-2;SUBLIMATION;PRECIPITATE;DISTILL;DISSOLVE",
     "DISSOLVE-2;PURIFY;PUTREFACTION;CRUCIBLE;CRUCIBLE-2;CRUCIBLE-3;CRUCIBLE-4;CRUCIBLE-5;ALEMBIC",
     "BATH OF MARY;BATH OF VAPOURS;RETORT;HOUR;NIGHT;DAY-NIGHT;MONTH;HALF DRAM;HALF OUNCE"]⟩,
   ⟨0x1f780, "BLACK ",
    ["LEFT-POINTING ISOSCELES RIGHT TRIANGLE;UP-POINTING ISOSCELES RIGHT TRIANGLE",
     "RIGHT-POINTING ISOSCELES RIGHT TRIANGLE;DOWN-POINTING ISOSCELES RIGHT TRIANGLE",
     "SLIGHTLY SMALL CIRCLE"]⟩,
   ⟨0x1f785, "",
    ["MEDIUM BOLD WHITE CIRCLE;BOLD WHITE CIRCLE;HEAVY WHITE CIRCLE;VERY HEAVY WHITE CIRCLE",
     "EXTREMELY HEAVY WHITE CIRCLE;WHITE CIRCLE CONTAINING BLACK SMALL CIRCLE;ROUND TARGET",
     "BLACK TINY SQUARE;BLACK SLIGHTLY SMALL SQUARE;LIGHT WHITE SQUARE;MEDIUM WHITE SQUARE",
     "BOLD WHITE SQUARE;HEAVY WHITE SQUARE;VERY HEAVY WHITE SQUARE;EXTREMELY HEAVY WHITE SQUARE",
     "WHITE SQUARE CONTAINING BLACK VERY SMALL SQUARE;WHITE SQUARE CONTAINING BLACK MEDIUM SQUARE",
     "SQUARE TARGET;BLACK TINY DIAMOND;BLACK VERY SMALL DIAMOND;BLACK MEDIUM SMALL DIAMOND",
     "WHITE DIAMOND CONTAINING BLACK VERY SMALL DIAMOND",
     "WHITE DIAMOND CONTAINING BLACK MEDIUM DIAMOND;DIAMOND TARGET;BLACK TINY LOZENGE",
     "BLACK VERY SMALL LOZENGE;BLACK MEDIUM SMALL LOZENGE",
     "WHITE LOZENGE CONTAINING BLACK SMALL LOZENGE;THIN GREEK CROSS;LIGHT GREEK CROSS",
     "MEDIUM GREEK CROSS;BOLD GREEK CROSS;VERY BOLD GREEK CROSS;VERY HEAVY GREEK CROSS",
     "EXTREMELY HEAVY GREEK CROSS;THIN SALTIRE;LIGHT SALTIRE;MEDIUM SALTIRE;BOLD SALTIRE",
     "HEAVY SALTIRE;VERY HEAVY SALTIRE;EXTREMELY HEAVY SALTIRE;LIGHT FIVE SPOKED ASTERISK",
     "MEDIUM FIVE SPOKED ASTERISK;BOLD FIVE SPOKED ASTERISK;HEAVY FIVE SPOKED ASTERISK",
     "VERY HEAVY FIVE SPOKED ASTERISK;EXTREMELY HEAVY FIVE SPOKED ASTERISK",
     "LIGHT SIX SPOKED ASTERISK;MEDIUM SIX SPOKED ASTERISK;BOLD SIX SPOKED ASTERISK",
     "HEAVY SIX SPOKED ASTERISK;VERY HEAVY SIX SPOKED ASTERISK;EXTREMELY HEAVY SIX SPOKED ASTERISK",
     "LIGHT EIGHT SPOKED ASTERISK;MEDIUM EIGHT SPOKED ASTERISK;BOLD EIGHT SPOKED ASTERISK",
     "HEAVY EIGHT SPOKED ASTERISK;VERY HEAVY EIGHT SPOKED ASTERISK;LIGHT THREE POINTED BLACK STAR",
     "MEDIUM THREE POINTED BLACK STAR;THREE POINTED BLACK STAR;MEDIUM THREE POINTED PINWHEEL STAR",
     "LIGHT FOUR POINTED BLACK STAR;MEDIUM FOUR POINTED BLACK STAR;FOUR POINTED BLACK STAR",
     "MEDIUM FOUR POINTED PINWHEEL STAR;REVERSE LIGHT FOUR POINTED PINWHEEL STAR",
     "LIGHT FIVE POINTED BLACK STAR;HEAVY FIVE POINTED BLACK STAR;MEDIUM SIX POINTED BLACK STAR",
     "HEAVY SIX POINTED BLACK STAR;SIX POINTED PINWHEEL STAR;MEDIUM EIGHT POINTED BLACK STAR",
     "HEAVY EIGHT POINTED BLACK STAR;VERY HEAVY EIGHT POINTED BLACK STAR",
     "HEAVY EIGHT POINTED PINWHEEL STAR;LIGHT TWELVE POINTED BLACK STAR",
     "HEAVY TWELVE POINTED BLACK STAR;HEAVY TWELVE POINTED PINWHEEL STAR;CIRCLED TRIANGLE",
     "NEGATIVE CIRCLED TRIANGLE;CIRCLED SQUARE;NEGATIVE CIRCLED SQUARE"]⟩,
   ⟨0x1f7e0, "LARGE ",
    ["ORANGE CIRCLE;YELLOW CIRCLE;GREEN CIRCLE;PURPLE CIRCLE;BROWN CIRCLE;RED SQUARE;BLUE SQUARE",
     "ORANGE SQUARE;YELLOW SQUARE;GREEN SQUARE;PURPLE SQUARE;BROWN SQUARE"]⟩,
   ⟨0x1f7f0, "", ["HEAVY EQUALS SIGN"]⟩,
   ⟨0x1f800, "",
    ["LEFTWARDS ARROW WITH SMALL TRIANGLE ARROWHEAD;UPWARDS ARROW WITH SMALL TRIANGLE ARROWHEAD",
     "RIGHTWARDS ARROW WITH SMALL TRIANGLE ARROWHEAD;DOWNWARDS ARROW WITH SMALL TRIANGLE ARROWHEAD",
     "LEFTWARDS ARROW WITH MEDIUM TRIANGLE ARROWHEAD;UPWARDS ARROW WITH MEDIUM TRIANGLE ARROWHEAD",
     "RIGHTWARDS ARROW WITH MEDIUM TRIANGLE ARROWHEAD",
     "DOWNWARDS ARROW WITH MEDIUM TRIANGLE ARROWHEAD;LEFTWARDS ARROW WITH LARGE TRIANGLE ARROWHEAD",
     "UPWARDS ARROW WITH LARGE TRIANGLE ARROWHEAD;RIGHTWARDS ARROW WITH LARGE TRIANGLE ARROWHEAD",
     "DOWNWARDS ARROW WITH LARGE TRIANGLE ARROWHEAD"]⟩,
   ⟨0x1f810, "",
    ["LEFTWARDS ARROW WITH SMALL EQUILATERAL ARROWHEAD",
     "UPWARDS ARROW WITH SMALL EQUILATERAL ARROWHEAD",
     "RIGHTWARDS ARROW WITH SMALL EQUILATERAL ARROWHEAD",
     "DOWNWARDS ARROW WITH SMALL EQUILATERAL ARROWHEAD;LEFTWARDS ARROW WITH EQUILATERAL ARROWHEAD",
     "UPWARDS ARROW WITH EQUILATERAL ARROWHEAD;RIGHTWARDS ARROW WITH EQUILATERAL ARROWHEAD",
     "DOWNWARDS ARROW WITH EQUILATERAL ARROWHEAD;HEAVY LEFTWARDS ARROW WITH EQUILATERAL ARROWHEAD",
     "HEAVY UPWARDS ARROW WITH EQUILATERAL ARROWHEAD",
     "HEAVY RIGHTWARDS ARROW WITH EQUILATERAL ARROWHEAD",
     "HEAVY DOWNWARDS ARROW WITH EQUILATERAL ARROWHEAD",
     "HEAVY LEFTWARDS ARROW WITH LARGE EQUILATERAL ARROWHEAD",
     "HEAVY UPWARDS ARROW WITH LARGE EQUILATERAL ARROWHEAD",
     "HEAVY RIGHTWARDS ARROW WITH LARGE EQUILATERAL ARROWHEAD",
     "HEAVY DOWNWARDS ARROW WITH LARGE EQUILATERAL ARROWHEAD",
     "LEFTWARDS TRIANGLE-HEADED ARROW WITH NARROW SHAFT",
     "UPWARDS TRIANGLE-HEADED ARROW WITH NARROW SHAFT",
     "RIGHTWARDS TRIANGLE-HEADED ARROW WITH NARROW SHAFT",
     "DOWNWARDS TRIANGLE-HEADED ARROW WITH NARROW SHAFT",
     "LEFTWARDS TRIANGLE-HEADED ARROW WITH MEDIUM SHAFT",
     "UPWARDS TRIANGLE-HEADED ARROW WITH MEDIUM SHAFT",
     "RIGHTWARDS TRIANGLE-HEADED ARROW WITH MEDIUM SHAFT",
     "DOWNWARDS TRIANGLE-HEADED ARROW WITH MEDIUM SHAFT",
     "LEFTWARDS TRIANGLE-HEADED ARROW WITH BOLD SHAFT",
     "UPWARDS TRIANGLE-HEADED ARROW WITH BOLD SHAFT",
     "RIGHTWARDS TRIANGLE-HEADED ARROW WITH BOLD SHAFT",
     "DOWNWARDS TRIANGLE-HEADED ARROW WITH BOLD SHAFT",
     "LEFTWARDS TRIANGLE-HEADED ARROW WITH HEAVY SHAFT",
     "UPWARDS TRIANGLE-HEADED ARROW WITH HEAVY SHAFT",
     "RIGHTWARDS TRIANGLE-HEADED ARROW WITH HEAVY SHAFT",
     "DOWNWARDS TRIANGLE-HEADED ARROW WITH HEAVY SHAFT",
     "LEFTWARDS TRIANGLE-HEADED ARROW WITH VERY HEAVY SHAFT",
     "UPWARDS TRIANGLE-HEADED ARROW WITH VERY HEAVY SHAFT",
     "RIGHTWARDS TRIANGLE-HEADED ARROW WITH VERY HEAVY SHAFT",
     "DOWNWARDS TRIANGLE-HEADED ARROW WITH VERY HEAVY SHAFT;LEFTWARDS FINGER-POST ARROW",
     "UPWARDS FINGER-POST ARROW;RIGHTWARDS FINGER-POST ARROW;DOWNWARDS FINGER-POST ARROW",
     "LEFTWARDS SQUARED ARROW;UPWARDS SQUARED ARROW;RIGHTWARDS SQUARED ARROW",
     "DOWNWARDS SQUARED ARROW;LEFTWARDS COMPRESSED ARROW;UPWARDS COMPRESSED ARROW",
     "RIGHTWARDS COMPRESSED ARROW;DOWNWARDS COMPRESSED ARROW;LEFTWARDS HEAVY COMPRESSED ARROW",
     "UPWARDS HEAVY COMPRESSED ARROW;RIGHTWARDS HEAVY COMPRESSED ARROW",
     "DOWNWARDS HEAVY COMPRESSED ARROW;LEFTWARDS HEAVY ARROW;UPWARDS HEAVY ARROW",
     "RIGHTWARDS HEAVY ARROW;DOWNWARDS HEAVY ARROW"]⟩,
   ⟨0x1f850, "",
    ["LEFTWARDS SANS-SERIF ARROW;UPWARDS SANS-SERIF ARROW;RIGHTWARDS SANS-SERIF ARROW",
     "DOWNWARDS SANS-SERIF ARROW;NORTH WEST SANS-SERIF ARROW;NORTH EAST SANS-SERIF ARROW",
     "SOUTH EAST SANS-SERIF ARROW;SOUTH WEST SANS-SERIF ARROW;LEFT RIGHT SANS-SERIF ARROW",
     "UP DOWN SANS-SERIF ARROW"]⟩,
   ⟨0x1f860, "WIDE-HEADED ",
    ["LEFTWARDS LIGHT BARB ARROW;UPWARDS LIGHT BARB ARROW;RIGHTWARDS LIGHT BARB ARROW",
     "DOWNWARDS LIGHT BARB ARROW;NORTH WEST LIGHT BARB ARROW;NORTH EAST LIGHT BARB ARROW",
     "SOUTH EAST LIGHT BARB ARROW;SOUTH WEST LIGHT BARB ARROW;LEFTWARDS BARB ARROW",
     "UPWARDS BARB ARROW;RIGHTWARDS BARB ARROW;DOWNWARDS BARB ARROW;NORTH WEST BARB ARROW",
     "NORTH EAST BARB ARROW;SOUTH EAST BARB ARROW;SOUTH WEST BARB ARROW",
     "LEFTWARDS MEDIUM BARB ARROW;UPWARDS MEDIUM BARB ARROW;RIGHTWARDS MEDIUM BARB ARROW",
     "DOWNWARDS MEDIUM BARB ARROW;NORTH WEST MEDIUM BARB ARROW;NORTH EAST MEDIUM BARB ARROW",
     "SOUTH EAST MEDIUM BARB ARROW;SOUTH WEST MEDIUM BARB ARROW;LEFTWARDS HEAVY BARB ARROW",
     "UPWARDS HEAVY BARB ARROW;RIGHTWARDS HEAVY BARB ARROW;DOWNWARDS HEAVY BARB ARROW",
     "NORTH WEST HEAVY BARB ARROW;NORTH EAST HEAVY BARB ARROW;SOUTH EAST HEAVY BARB ARROW",
     "SOUTH WEST HEAVY BARB ARROW;LEFTWARDS VERY HEAVY BARB ARROW;UPWARDS VERY HEAVY BARB ARROW",
     "RIGHTWARDS VERY HEAVY BARB ARROW;DOWNWARDS VERY HEAVY BARB ARROW",
     "NORTH WEST VERY HEAVY BARB ARROW;NORTH EAST VERY HEAVY BARB ARROW",
     "SOUTH EAST VERY HEAVY BARB ARROW;SOUTH WEST VERY HEAVY BARB ARROW"]⟩,
   ⟨0x1f890, "",
    ["LEFTWARDS TRIANGLE ARROWHEAD;UPWARDS TRIANGLE ARROWHEAD;RIGHTWARDS TRIANGLE ARROWHEAD",
     "DOWNWARDS TRIANGLE ARROWHEAD;LEFTWARDS WHITE ARROW WITHIN TRIANGLE ARROWHEAD",
     "UPWARDS WHITE ARROW WITHIN TRIANGLE ARROWHEAD",
     "RIGHTWARDS WHITE ARROW WITHIN TRIANGLE ARROWHEAD",
     "DOWNWARDS WHITE ARROW WITHIN TRIANGLE ARROWHEAD;LEFTWARDS ARROW WITH NOTCHED TAIL",
     "UPWARDS ARROW WITH NOTCHED TAIL;RIGHTWARDS ARROW WITH NOTCHED TAIL",
     "DOWNWARDS ARROW WITH NOTCHED TAIL"]⟩,
   ⟨0x1f89c, "HEAVY ARROW SHAFT WIDTH ", ["ONE;TWO THIRDS;ONE HALF;ONE THIRD"]⟩,
   ⟨0x1f8a0, "",
    ["LEFTWARDS BOTTOM-SHADED WHITE ARROW;RIGHTWARDS BOTTOM SHADED WHITE ARROW",
     "LEFTWARDS TOP SHADED WHITE ARROW;RIGHTWARDS TOP SHADED WHITE ARROW",
     "LEFTWARDS LEFT-SHADED WHITE ARROW;RIGHTWARDS RIGHT-SHADED WHITE ARROW",
     "LEFTWARDS RIGHT-SHADED WHITE ARROW;RIGHTWARDS LEFT-SHADED WHITE ARROW",
     "LEFTWARDS BACK-TILTED SHADOWED WHITE ARROW;RIGHTWARDS BACK-TILTED SHADOWED WHITE ARROW",
     "LEFTWARDS FRONT-TILTED SHADOWED WHITE ARROW;RIGHTWARDS FRONT-TILTED SHADOWED WHITE ARROW"]⟩,
   ⟨0x1f8ac, "WHITE ARROW SHAFT WIDTH ", ["ONE;TWO THIRDS"]⟩,
   ⟨0x1f8b0, "ARROW POINTING ", ["UPWARDS THEN NORTH WEST;RIGHTWARDS THEN CURVING SOUTH WEST"]⟩,
   ⟨0x1f900, "CIRCLED CROSS ", ["FORMEE WITH FOUR DOTS;FORMEE WITH TWO DOTS;FORMEE"]⟩,
   ⟨0x1f903, "LEFT HALF CIRCLE WITH ", ["FOUR DOTS;THREE DOTS;TWO DOTS;DOT"]⟩,
   ⟨0x1f907, "", ["LEFT HALF CIRCLE"]⟩,
   ⟨0x1f908, "DOWNWARD FACING ", ["HOOK;NOTCHED HOOK;HOOK WITH DOT;NOTCHED HOOK WITH DOT"]⟩,
   ⟨0x1f90c, "",
    ["PINCHED FINGERS;WHITE HEART;BROWN HEART;PINCHING HAND;ZIPPER-MOUTH FACE;MONEY-MOUTH FACE",
     "FACE WITH THERMOMETER;NERD FACE;THINKING FACE;FACE WITH HEAD-BANDAGE;ROBOT FACE;HUGGING FACE",
     "SIGN OF THE HORNS;CALL ME HAND;RAISED BACK OF HAND;LEFT-FACING FIST;RIGHT-FACING FIST",
     "HANDSHAKE;HAND WITH INDEX AND MIDDLE FINGERS CROSSED;I LOVE YOU HAND SIGN",
     "FACE WITH COWBOY HAT;CLOWN FACE;NAUSEATED FACE;ROLLING ON THE FLOOR LAUGHING;DROOLING FACE",
     "LYING FACE;FACE PALM;SNEEZING FACE;FACE WITH ONE EYEBROW RAISED;GRINNING FACE WITH STAR EYES",
     "GRINNING FACE WITH ONE LARGE AND ONE SMALL EYE;FACE WITH FINGER COVERING CLOSED LIPS",
     "SERIOUS FACE WITH SYMBOLS COVERING MOUTH",
     "SMILING FACE WITH SMILING EYES AND HAND COVERING MOUTH;FACE WITH OPEN MOUTH VOMITING",
     "SHOCKED FACE WITH EXPLODING HEAD;PREGNANT WOMAN;BREAST-FEEDING;PALMS UP TOGETHER;SELFIE",
     "PRINCE;MAN IN TUXEDO;MOTHER CHRISTMAS;SHRUG;PERSON DOING CARTWHEEL;JUGGLING;FENCER",
     "MODERN PENTATHLON;WRESTLERS;WATER POLO;HANDBALL;DIVING MASK;WILTED FLOWER",
     "DRUM WITH DRUMSTICKS;CLINKING GLASSES;TUMBLER GLASS;SPOON;GOAL NET;RIFLE;FIRST PLACE MEDAL",
     "SECOND PLACE MEDAL;THIRD PLACE MEDAL;BOXING GLOVE;MARTIAL ARTS UNIFORM;CURLING STONE",
     "LACROSSE STICK AND BALL;SOFTBALL;FLYING DISC;CROISSANT;AVOCADO;CUCUMBER;BACON;POTATO;CARROT",
     "BAGUETTE BREAD;GREEN SALAD;SHALLOW PAN OF FOOD;STUFFED FLATBREAD;EGG;GLASS OF MILK;PEANUTS",
     "KIWIFRUIT;PANCAKES;DUMPLING;FORTUNE COOKIE;TAKEOUT BOX;CHOPSTICKS;BOWL WITH SPOON",
     "CUP WITH STRAW;COCONUT;BROCCOLI;PIE;PRETZEL;CUT OF MEAT;SANDWICH;CANNED FOOD;LEAFY GREEN",
     "MANGO;MOON CAKE;BAGEL;SMILING FACE WITH SMILING EYES AND THREE HEARTS;YAWNING FACE",
     "SMILING FACE WITH TEAR;FACE WITH PARTY HORN AND PARTY HAT",
     "FACE WITH UNEVEN EYES AND WAVY MOUTH;OVERHEATED FACE;FREEZING FACE;NINJA;DISGUISED FACE",
     "FACE HOLDING BACK TEARS;FACE WITH PLEADING EYES;SARI;LAB COAT;GOGGLES;HIKING BOOT;FLAT SHOE",
     "CRAB;LION FACE;SCORPION;TURKEY;UNICORN FACE;EAGLE;DUCK;BAT;SHARK;OWL;FOX FACE;BUTTERFLY;DEER",
     "GORILLA;LIZARD;RHINOCEROS;SHRIMP;SQUID;GIRAFFE FACE;ZEBRA FACE;HEDGEHOG;SAUROPOD;T-REX",
     "CRICKET;KANGAROO;LLAMA;PEACOCK;HIPPOPOTAMUS;PARROT;RACCOON;LOBSTER;MOSQUITO;MICROBE;BADGER",
     "SWAN;MAMMOTH;DODO;SLOTH;OTTER;ORANGUTAN;SKUNK;FLAMINGO;OYSTER"]⟩,
   ⟨0x1f9ab, "", ["BEAVER;BISON;SEAL;GUIDE DOG;PROBING CANE"]⟩,
   ⟨0x1f9b0, "EMOJI COMPONENT ", ["RED HAIR;CURLY HAIR;BALD;WHITE HAIR"]⟩,
   ⟨0x1f9b4, "",
    ["BONE;LEG;FOOT;TOOTH;SUPERHERO;SUPERVILLAIN;SAFETY VEST;EAR WITH HEARING AID",
     "MOTORIZED WHEELCHAIR;MANUAL WHEELCHAIR;MECHANICAL ARM;MECHANICAL LEG;CHEESE WEDGE;CUPCAKE",
     "SALT SHAKER;BEVERAGE BOX;GARLIC;ONION;FALAFEL;WAFFLE;BUTTER;MATE DRINK;ICE CUBE;BUBBLE TEA",
     "TROLL;STANDING PERSON;KNEELING PERSON;DEAF PERSON;FACE WITH MONOCLE;ADULT;CHILD;OLDER ADULT",
     "BEARDED PERSON;PERSON WITH HEADSCARF;PERSON IN STEAMY ROOM;PERSON CLIMBING",
     "PERSON IN LOTUS POSITION;MAGE;FAIRY;VAMPIRE;MERPERSON;ELF;GENIE;ZOMBIE;BRAIN;ORANGE HEART",
     "BILLED CAP;SCARF;GLOVES;COAT;SOCKS;RED GIFT ENVELOPE;FIRECRACKER;JIGSAW PUZZLE PIECE",
     "TEST TUBE;PETRI DISH;DNA DOUBLE HELIX;COMPASS;ABACUS;FIRE EXTINGUISHER;TOOLBOX;BRICK;MAGNET",
     "LUGGAGE;LOTION BOTTLE;SPOOL OF THREAD;BALL OF YARN;SAFETY PIN;TEDDY BEAR;BROOM;BASKET",
     "ROLL OF PAPER;BAR OF SOAP;SPONGE;RECEIPT;NAZAR AMULET"]⟩,
   ⟨0x1fa00, "NEUTRAL CHESS ", ["KING;QUEEN;ROOK;BISHOP;KNIGHT;PAWN"]⟩,
   ⟨0x1fa06, "",
    ["WHITE CHESS KNIGHT ROTATED FORTY-FIVE DEGREES;BLACK CHESS KNIGHT ROTATED FORTY-FIVE DEGREES",
     "NEUTRAL CHESS KNIGHT ROTATED FORTY-FIVE DEGREES"]⟩,
   ⟨0x1fa09, "WHITE CHESS ",
    ["KING ROTATED NINETY DEGREES;QUEEN ROTATED NINETY DEGREES;ROOK ROTATED NINETY DEGREES",
     "BISHOP ROTATED NINETY DEGREES;KNIGHT ROTATED NINETY DEGREES;PAWN ROTATED NINETY DEGREES"]⟩,
   ⟨0x1fa0f, "BLACK CHESS ",
    ["KING ROTATED NINETY DEGREES;QUEEN ROTATED NINETY DEGREES;ROOK ROTATED NINETY DEGREES",
     "BISHOP ROTATED NINETY DEGREES;KNIGHT ROTATED NINETY DEGREES;PAWN ROTATED NINETY DEGREES"]⟩,
   ⟨0x1fa15, "NEUTRAL CHESS ",
    ["KING ROTATED NINETY DEGREES;QUEEN ROTATED NINETY DEGREES;ROOK ROTATED NINETY DEGREES",
     "BISHOP ROTATED NINETY DEGREES;KNIGHT ROTATED NINETY DEGREES;PAWN ROTATED NINETY DEGREES"]⟩,
   ⟨0x1fa1b, "",
    ["WHITE CHESS KNIGHT ROTATED ONE HUNDRED THIRTY-FIVE DEGREES",
     "BLACK CHESS KNIGHT ROTATED ONE HUNDRED THIRTY-FIVE DEGREES",
     "NEUTRAL CHESS KNIGHT ROTATED ONE HUNDRED THIRTY-FIVE DEGREES"]⟩,
   ⟨0x1fa1e, "WHITE CHESS TURNED ", ["KING;QUEEN;ROOK;BISHOP;KNIGHT;PAWN"]⟩,
   ⟨0x1fa24, "BLACK CHESS TURNED ", ["KING;QUEEN;ROOK;BISHOP;KNIGHT;PAWN"]⟩,
   ⟨0x1fa2a, "NEUTRAL CHESS TURNED ", ["KING;QUEEN;ROOK;BISHOP;KNIGHT;PAWN"]⟩,
   ⟨0x1fa30, "",
    ["WHITE CHESS KNIGHT ROTATED TWO HUNDRED TWENTY-FIVE DEGREES",
     "BLACK CHESS KNIGHT ROTATED TWO HUNDRED TWENTY-FIVE DEGREES",
     "NEUTRAL CHESS KNIGHT ROTATED TWO HUNDRED TWENTY-FIVE DEGREES"]⟩,
   ⟨0x1fa33, "WHITE CHESS ",
    ["KING ROTATED TWO HUNDRED SEVENTY DEGREES;QUEEN ROTATED TWO HUNDRED SEVENTY DEGREES",
     "ROOK ROTATED TWO HUNDRED SEVENTY DEGREES;BISHOP ROTATED TWO HUNDRED SEVENTY DEGREES",
     "KNIGHT ROTATED TWO HUNDRED SEVENTY DEGREES;PAWN ROTATED TWO HUNDRED SEVENTY DEGREES"]⟩,
   ⟨0x1fa39, "BLACK CHESS ",
    ["KING ROTATED TWO HUNDRED SEVENTY DEGREES;QUEEN ROTATED TWO HUNDRED SEVENTY DEGREES",
     "ROOK ROTATED TWO HUNDRED SEVENTY DEGREES;BISHOP ROTATED TWO HUNDRED SEVENTY DEGREES",
     "KNIGHT ROTATED TWO HUNDRED SEVENTY DEGREES;PAWN ROTATED TWO HUNDRED SEVENTY DEGREES"]⟩,
   ⟨0x1fa3f, "NEUTRAL CHESS ",
    ["KING ROTATED TWO HUNDRED SEVENTY DEGREES;QUEEN ROTATED TWO HUNDRED SEVENTY DEGREES",
     "ROOK ROTATED TWO HUNDRED SEVENTY DEGREES;BISHOP ROTATED TWO HUNDRED SEVENTY DEGREES",
     "KNIGHT ROTATED TWO HUNDRED SEVENTY DEGREES;PAWN ROTATED TWO HUNDRED SEVENTY DEGREES"]⟩,
   ⟨0x1fa45, "",
    ["WHITE CHESS KNIGHT ROTATED THREE HUNDRED FIFTEEN DEGREES",
     "BLACK CHESS KNIGHT ROTATED THREE HUNDRED FIFTEEN DEGREES",
     "NEUTRAL CHESS KNIGHT ROTATED THREE HUNDRED FIFTEEN DEGREES;WHITE CHESS EQUIHOPPER",
     "BLACK CHESS EQUIHOPPER;NEUTRAL CHESS EQUIHOPPER",
     "WHITE CHESS EQUIHOPPER ROTATED NINETY DEGREES;BLACK CHESS EQUIHOPPER ROTATED NINETY DEGREES",
     "NEUTRAL CHESS EQUIHOPPER ROTATED NINETY DEGREES"]⟩,
   ⟨0x1fa4e, "WHITE CHESS ", ["KNIGHT-QUEEN;KNIGHT-ROOK;KNIGHT-BISHOP"]⟩,
   ⟨0x1fa51, "BLACK CHESS ", ["KNIGHT-QUEEN;KNIGHT-ROOK;KNIGHT-BISHOP"]⟩,
   ⟨0x1fa60, "XIANGQI RED ", ["GENERAL;MANDARIN;ELEPHANT;HORSE;CHARIOT;CANNON;SOLDIER"]⟩,
   ⟨0x1fa67, "XIANGQI BLACK ", ["GENERAL;MANDARIN;ELEPHANT;HORSE;CHARIOT;CANNON;SOLDIER"]⟩,
   ⟨0x1fa70, "", ["BALLET SHOES;ONE-PIECE SWIMSUIT;BRIEFS;SHORTS;THONG SANDAL"]⟩,
   ⟨0x1fa78, "", ["DROP OF BLOOD;ADHESIVE BANDAGE;STETHOSCOPE;X-RAY;CRUTCH"]⟩,
   ⟨0x1fa80, "", ["YO-YO;KITE;PARACHUTE;BOOMERANG;MAGIC WAND;PINATA;NESTING DOLLS"]⟩,
   ⟨0x1fa90, "",
    ["RINGED PLANET;CHAIR;RAZOR;AXE;DIYA LAMP;BANJO;MILITARY HELMET;ACCORDION;LONG DRUM;COIN",
     "CARPENTRY SAW;SCREWDRIVER;LADDER;HOOK;MIRROR;WINDOW;PLUNGER;SEWING NEEDLE;KNOT;BUCKET",
     "MOUSE TRAP;TOOTHBRUSH;HEADSTONE;PLACARD;ROCK;MIRROR BALL;IDENTIFICATION CARD;LOW BATTERY",
     "HAMSA"]⟩,
   ⟨0x1fab0, "",
    ["FLY;WORM;BEETLE;COCKROACH;POTTED PLANT;WOOD;FEATHER;LOTUS;CORAL;EMPTY NEST;NEST WITH EGGS"]⟩,
   ⟨0x1fac0, "",
    ["ANATOMICAL HEART;LUNGS;PEOPLE HUGGING;PREGNANT MAN;PREGNANT PERSON;PERSON WITH CROWN"]⟩,
   ⟨0x1fad0, "",
    ["BLUEBERRIES;BELL PEPPER;OLIVE;FLATBREAD;TAMALE;FONDUE;TEAPOT;POURING LIQUID;BEANS;JAR"]⟩,
   ⟨0x1fae0, "",
    ["MELTING FACE;SALUTING FACE;FACE WITH OPEN EYES AND HAND OVER MOUTH;FACE WITH PEEKING EYE",
     "FACE WITH DIAGONAL MOUTH;DOTTED LINE FACE;BITING LIP;BUBBLES"]⟩,
   ⟨0x1faf0, "",
    ["HAND WITH INDEX FINGER AND THUMB CROSSED;RIGHTWARDS HAND;LEFTWARDS HAND;PALM DOWN HAND",
     "PALM UP HAND;INDEX POINTING AT THE VIEWER;HEART HANDS"]⟩,
   ⟨0x1fb00, "BLOCK ",
    ["SEXTANT-1;SEXTANT-2;SEXTANT-12;SEXTANT-3;SEXTANT-13;SEXTANT-23;SEXTANT-123;SEXTANT-4",
     "SEXTANT-14;SEXTANT-24;SEXTANT-124;SEXTANT-34;SEXTANT-134;SEXTANT-234;SEXTANT-1234;SEXTANT-5",
     "SEXTANT-15;SEXTANT-25;SEXTANT-125;SEXTANT-35;SEXTANT-235;SEXTANT-1235;SEXTANT-45;SEXTANT-145",
     "SEXTANT-245;SEXTANT-1245;SEXTANT-345;SEXTANT-1345;SEXTANT-2345;SEXTANT-12345;SEXTANT-6",
     "SEXTANT-16;SEXTANT-26;SEXTANT-126;SEXTANT-36;SEXTANT-136;SEXTANT-236;SEXTANT-1236;SEXTANT-46",
     "SEXTANT-146;SEXTANT-1246;SEXTANT-346;SEXTANT-1346;SEXTANT-2346;SEXTANT-12346;SEXTANT-56",
     "SEXTANT-156;SEXTANT-256;SEXTANT-1256;SEXTANT-356;SEXTANT-1356;SEXTANT-2356;SEXTANT-12356",
     "SEXTANT-456;SEXTANT-1456;SEXTANT-2456;SEXTANT-12456;SEXTANT-3456;SEXTANT-13456;SEXTANT-23456"]⟩,
   ⟨0x1fb3c, "LOWER LEFT BLOCK DIAGONAL ",
    ["LOWER MIDDLE LEFT TO LOWER CENTRE;LOWER MIDDLE LEFT TO LOWER RIGHT",
     "UPPER MIDDLE LEFT TO LOWER CENTRE;UPPER MIDDLE LEFT TO LOWER RIGHT",
     "UPPER LEFT TO LOWER CENTRE"]⟩,
   ⟨0x1fb41, "LOWER RIGHT BLOCK DIAGONAL UPPER MIDDLE LEFT TO UPPER ", ["CENTRE;RIGHT"]⟩,
   ⟨0x1fb43, "LOWER RIGHT BLOCK DIAGONAL LOWER ",
    ["MIDDLE LEFT TO UPPER CENTRE;MIDDLE LEFT TO UPPER RIGHT;LEFT TO UPPER CENTRE",
     "MIDDLE LEFT TO UPPER MIDDLE RIGHT;CENTRE TO LOWER MIDDLE RIGHT;LEFT TO LOWER MIDDLE RIGHT",
     "CENTRE TO UPPER MIDDLE RIGHT;LEFT TO UPPER MIDDLE RIGHT;CENTRE TO UPPER RIGHT"]⟩,
   ⟨0x1fb4c, "LOWER LEFT BLOCK DIAGONAL UPPER ",
    ["CENTRE TO UPPER MIDDLE RIGHT;LEFT TO UPPER MIDDLE RIGHT;CENTRE TO LOWER MIDDLE RIGHT",
     "LEFT TO LOWER MIDDLE RIGHT;CENTRE TO LOWER RIGHT;MIDDLE LEFT TO LOWER MIDDLE RIGHT"]⟩,
   ⟨0x1fb52, "UPPER RIGHT BLOCK DIAGONAL ",
    ["LOWER MIDDLE LEFT TO LOWER CENTRE;LOWER MIDDLE LEFT TO LOWER RIGHT",
     "UPPER MIDDLE LEFT TO LOWER CENTRE;UPPER MIDDLE LEFT TO LOWER RIGHT",
     "UPPER LEFT TO LOWER CENTRE"]⟩,
   ⟨0x1fb57, "UPPER LEFT BLOCK DIAGONAL UPPER MIDDLE LEFT TO UPPER ", ["CENTRE;RIGHT"]⟩,
   ⟨0x1fb59, "UPPER LEFT BLOCK DIAGONAL LOWER ",
    ["MIDDLE LEFT TO UPPER CENTRE;MIDDLE LEFT TO UPPER RIGHT;LEFT TO UPPER CENTRE",
     "MIDDLE LEFT TO UPPER MIDDLE RIGHT;CENTRE TO LOWER MIDDLE RIGHT;LEFT TO LOWER MIDDLE RIGHT",
     "CENTRE TO UPPER MIDDLE RIGHT;LEFT TO UPPER MIDDLE RIGHT;CENTRE TO UPPER RIGHT"]⟩,
   ⟨0x1fb62, "UPPER RIGHT BLOCK DIAGONAL UPPER ",
    ["CENTRE TO UPPER MIDDLE RIGHT;LEFT TO UPPER MIDDLE RIGHT;CENTRE TO LOWER MIDDLE RIGHT",
     "LEFT TO LOWER MIDDLE RIGHT;CENTRE TO LOWER RIGHT;MIDDLE LEFT TO LOWER MIDDLE RIGHT"]⟩,
   ⟨0x1fb68, "",
    ["UPPER AND RIGHT AND LOWER TRIANGULAR THREE QUARTERS BLOCK",
     "LEFT AND LOWER AND RIGHT TRIANGULAR THREE QUARTERS BLOCK",
     "UPPER AND LEFT AND LOWER TRIANGULAR THREE QUARTERS BLOCK",
     "LEFT AND UPPER AND RIGHT TRIANGULAR THREE QUARTERS BLOCK;LEFT TRIANGULAR ONE QUARTER BLOCK",
     "UPPER TRIANGULAR ONE QUARTER BLOCK;RIGHT TRIANGULAR ONE QUARTER BLOCK",
     "LOWER TRIANGULAR ONE QUARTER BLOCK"]⟩,
   ⟨0x1fb70, "VERTICAL ONE EIGHTH ", ["BLOCK-2;BLOCK-3;BLOCK-4;BLOCK-5;BLOCK-6;BLOCK-7"]⟩,
   ⟨0x1fb76, "HORIZONTAL ONE EIGHTH ", ["BLOCK-2;BLOCK-3;BLOCK-4;BLOCK-5;BLOCK-6;BLOCK-7"]⟩,
   ⟨0x1fb7c, "",
    ["LEFT AND LOWER ONE EIGHTH BLOCK;LEFT AND UPPER ONE EIGHTH BLOCK",
     "RIGHT AND UPPER ONE EIGHTH BLOCK;RIGHT AND LOWER ONE EIGHTH BLOCK",
     "UPPER AND LOWER ONE EIGHTH BLOCK;HORIZONTAL ONE EIGHTH BLOCK-1358;UPPER ONE QUARTER BLOCK",
     "UPPER THREE EIGHTHS BLOCK;UPPER FIVE EIGHTHS BLOCK;UPPER THREE QUARTERS BLOCK",
     "UPPER SEVEN EIGHTHS BLOCK;RIGHT ONE QUARTER BLOCK;RIGHT THREE EIGHTHS BLOCK",
     "RIGHT FIVE EIGHTHS BLOCK;RIGHT THREE QUARTERS BLOCK;RIGHT SEVEN EIGHTHS BLOCK",
     "LEFT HALF MEDIUM SHADE;RIGHT HALF MEDIUM SHADE;UPPER HALF MEDIUM SHADE",
     "LOWER HALF MEDIUM SHADE;INVERSE MEDIUM SHADE",
     "UPPER HALF BLOCK AND LOWER HALF INVERSE MEDIUM SHADE",
     "UPPER HALF INVERSE MEDIUM SHADE AND LOWER HALF BLOCK"]⟩,
   ⟨0x1fb94, "",
    ["LEFT HALF INVERSE MEDIUM SHADE AND RIGHT HALF BLOCK;CHECKER BOARD FILL",
     "INVERSE CHECKER BOARD FILL;HEAVY HORIZONTAL FILL;UPPER LEFT TO LOWER RIGHT FILL",
     "UPPER RIGHT TO LOWER LEFT FILL;UPPER AND LOWER TRIANGULAR HALF BLOCK",
     "LEFT AND RIGHT TRIANGULAR HALF BLOCK;UPPER LEFT TRIANGULAR MEDIUM SHADE",
     "UPPER RIGHT TRIANGULAR MEDIUM SHADE;LOWER RIGHT TRIANGULAR MEDIUM SHADE",
     "LOWER LEFT TRIANGULAR MEDIUM SHADE"]⟩,
   ⟨0x1fba0, "BOX DRAWINGS LIGHT DIAGONAL ",
    ["UPPER CENTRE TO MIDDLE LEFT;UPPER CENTRE TO MIDDLE RIGHT;MIDDLE LEFT TO LOWER CENTRE",
     "MIDDLE RIGHT TO LOWER CENTRE;UPPER CENTRE TO MIDDLE LEFT TO LOWER CENTRE",
     "UPPER CENTRE TO MIDDLE RIGHT TO LOWER CENTRE;MIDDLE LEFT TO LOWER CENTRE TO MIDDLE RIGHT",
     "MIDDLE LEFT TO UPPER CENTRE TO MIDDLE RIGHT",
     "UPPER CENTRE TO MIDDLE LEFT AND MIDDLE RIGHT TO LOWER CENTRE",
     "UPPER CENTRE TO MIDDLE RIGHT AND MIDDLE LEFT TO LOWER CENTRE",
     "UPPER CENTRE TO MIDDLE RIGHT TO LOWER CENTRE TO MIDDLE LEFT",
     "UPPER CENTRE TO MIDDLE LEFT TO LOWER CENTRE TO MIDDLE RIGHT",
     "MIDDLE LEFT TO UPPER CENTRE TO MIDDLE RIGHT TO LOWER CENTRE",
     "MIDDLE RIGHT TO UPPER CENTRE TO MIDDLE LEFT TO LOWER CENTRE;DIAMOND"]⟩,
   ⟨0x1fbaf, "",
    ["BOX DRAWINGS LIGHT HORIZONTAL WITH VERTICAL STROKE;ARROWHEAD-SHAPED POINTER",
     "INVERSE CHECK MARK;LEFT HALF RUNNING MAN;RIGHT HALF RUNNING MAN",
     "INVERSE DOWNWARDS ARROW WITH TIP LEFTWARDS",
     "LEFTWARDS ARROW AND UPPER AND LOWER ONE EIGHTH BLOCK",
     "RIGHTWARDS ARROW AND UPPER AND LOWER ONE EIGHTH BLOCK",
     "DOWNWARDS ARROW AND RIGHT ONE EIGHTH BLOCK;UPWARDS ARROW AND RIGHT ONE EIGHTH BLOCK",
     "LEFT HALF FOLDER;RIGHT HALF FOLDER;VOIDED GREEK CROSS;RIGHT OPEN SQUARED DOT",
     "NEGATIVE DIAGONAL CROSS;NEGATIVE DIAGONAL MIDDLE RIGHT TO LOWER CENTRE",
     "NEGATIVE DIAGONAL DIAMOND;WHITE HEAVY SALTIRE WITH ROUNDED CORNERS",
     "LEFT THIRD WHITE RIGHT POINTING INDEX;MIDDLE THIRD WHITE RIGHT POINTING INDEX",
     "RIGHT THIRD WHITE RIGHT POINTING INDEX;NEGATIVE SQUARED QUESTION MARK;STICK FIGURE",
     "STICK FIGURE WITH ARMS RAISED;STICK FIGURE LEANING LEFT;STICK FIGURE LEANING RIGHT",
     "STICK FIGURE WITH DRESS;WHITE UP-POINTING CHEVRON"]⟩,
   ⟨0x1fbf0, "SEGMENTED DIGIT ", ["ZERO;ONE;TWO;THREE;FOUR;FIVE;SIX;SEVEN;EIGHT;NINE"]⟩,
   ⟨0xe0001, "", ["LANGUAGE TAG"]⟩,
   ⟨0xe0020, "TAG ",
    ["SPACE;EXCLAMATION MARK;QUOTATION MARK;NUMBER SIGN;DOLLAR SIGN;PERCENT SIGN;AMPERSAND",
     "APOSTROPHE;LEFT PARENTHESIS;RIGHT PARENTHESIS;ASTERISK;PLUS SIGN;COMMA;HYPHEN-MINUS",
     "FULL STOP;SOLIDUS;DIGIT ZERO;DIGIT ONE;DIGIT TWO;DIGIT THREE;DIGIT FOUR;DIGIT FIVE;DIGIT SIX",
     "DIGIT SEVEN;DIGIT EIGHT;DIGIT NINE;COLON;SEMICOLON;LESS-THAN SIGN;EQUALS SIGN",
     "GREATER-THAN SIGN;QUESTION MARK;COMMERCIAL AT"]⟩,
   ⟨0xe0041, "TAG LATIN CAPITAL LETTER ",
    ["A;B;C;D;E;F;G;H;I;J;K;L;M;N;O;P;Q;R;S;T;U;V;W;X;Y;Z"]⟩,
   ⟨0xe005b, "TAG ",
    ["LEFT SQUARE BRACKET;REVERSE SOLIDUS;RIGHT SQUARE BRACKET;CIRCUMFLEX ACCENT;LOW LINE",
     "GRAVE ACCENT"]⟩,
   ⟨0xe0061, "TAG LATIN SMALL LETTER ", ["A;B;C;D;E;F;G;H;I;J;K;L;M;N;O;P;Q;R;S;T;U;V;W;X;Y;Z"]⟩,
   ⟨0xe007b, "",
    ["TAG LEFT CURLY BRACKET;TAG VERTICAL LINE;TAG RIGHT CURLY BRACKET;TAG TILDE;CANCEL TAG"]⟩,
   ⟨0xe0100, "VARIATION ",
    ["SELECTOR-17;SELECTOR-18;SELECTOR-19;SELECTOR-20;SELECTOR-21;SELECTOR-22;SELECTOR-23",
     "SELECTOR-24;SELECTOR-25;SELECTOR-26;SELECTOR-27;SELECTOR-28;SELECTOR-29;SELECTOR-30",
     "SELECTOR-31;SELECTOR-32;SELECTOR-33;SELECTOR-34;SELECTOR-35;SELECTOR-36;SELECTOR-37",
     "SELECTOR-38;SELECTOR-39;SELECTOR-40;SELECTOR-41;SELECTOR-42;SELECTOR-43;SELECTOR-44",
     "SELECTOR-45;SELECTOR-46;SELECTOR-47;SELECTOR-48;SELECTOR-49;SELECTOR-50;SELECTOR-51",
     "SELECTOR-52;SELECTOR-53;SELECTOR-54;SELECTOR-55;SELECTOR-56;SELECTOR-57;SELECTOR-58",
     "SELECTOR-59;SELECTOR-60;SELECTOR-61;SELECTOR-62;SELECTOR-63;SELECTOR-64;SELECTOR-65",
     "SELECTOR-66;SELECTOR-67;SELECTOR-68;SELECTOR-69;SELECTOR-70;SELECTOR-71;SELECTOR-72",
     "SELECTOR-73;SELECTOR-74;SELECTOR-75;SELECTOR-76;SELECTOR-77;SELECTOR-78;SELECTOR-79",
     "SELECTOR-80;SELECTOR-81;SELECTOR-82;SELECTOR-83;SELECTOR-84;SELECTOR-85;SELECTOR-86",
     "SELECTOR-87;SELECTOR-88;SELECTOR-89;SELECTOR-90;SELECTOR-91;SELECTOR-92;SELECTOR-93",
     "SELECTOR-94;SELECTOR-95;SELECTOR-96;SELECTOR-97;SELECTOR-98;SELECTOR-99;SELECTOR-100",
     "SELECTOR-101;SELECTOR-102;SELECTOR-103;SELECTOR-104;SELECTOR-105;SELECTOR-106;SELECTOR-107",
     "SELECTOR-108;SELECTOR-109;SELECTOR-110;SELECTOR-111;SELECTOR-112;SELECTOR-113;SELECTOR-114",
     "SELECTOR-115;SELECTOR-116;SELECTOR-117;SELECTOR-118;SELECTOR-119;SELECTOR-120;SELECTOR-121",
     "SELECTOR-122;SELECTOR-123;SELECTOR-124;SELECTOR-125;SELECTOR-126;SELECTOR-127;SELECTOR-128",
     "SELECTOR-129;SELECTOR-130;SELECTOR-131;SELECTOR-132;SELECTOR-133;SELECTOR-134;SELECTOR-135",
     "SELECTOR-136;SELECTOR-137;SELECTOR-138;SELECTOR-139;SELECTOR-140;SELECTOR-141;SELECTOR-142",
     "SELECTOR-143;SELECTOR-144;SELECTOR-145;SELECTOR-146;SELECTOR-147;SELECTOR-148;SELECTOR-149",
     "SELECTOR-150;SELECTOR-151;SELECTOR-152;SELECTOR-153;SELECTOR-154;SELECTOR-155;SELECTOR-156",
     "SELECTOR-157;SELECTOR-158;SELECTOR-159;SELECTOR-160;SELECTOR-161;SELECTOR-162;SELECTOR-163",
     "SELECTOR-164;SELECTOR-165;SELECTOR-166;SELECTOR-167;SELECTOR-168;SELECTOR-169;SELECTOR-170",
     "SELECTOR-171;SELECTOR-172;SELECTOR-173;SELECTOR-174;SELECTOR-175"]⟩,
   ⟨0xe019f, "VARIATION ",
    ["SELECTOR-176;SELECTOR-177;SELECTOR-178;SELECTOR-179;SELECTOR-180;SELECTOR-181;SELECTOR-182",
     "SELECTOR-183;SELECTOR-184;SELECTOR-185;SELECTOR-186;SELECTOR-187;SELECTOR-188;SELECTOR-189",
     "SELECTOR-190;SELECTOR-191;SELECTOR-192;SELECTOR-193;SELECTOR-194;SELECTOR-195;SELECTOR-196",
     "SELECTOR-197;SELECTOR-198;SELECTOR-199;SELECTOR-200;SELECTOR-201;SELECTOR-202;SELECTOR-203",
     "SELECTOR-204;SELECTOR-205;SELECTOR-206;SELECTOR-207;SELECTOR-208;SELECTOR-209;SELECTOR-210",
     "SELECTOR-211;SELECTOR-212;SELECTOR-213;SELECTOR-214;SELECTOR-215;SELECTOR-216;SELECTOR-217",
     "SELECTOR-218;SELECTOR-219;SELECTOR-220;SELECTOR-221;SELECTOR-222;SELECTOR-223;SELECTOR-224",
     "SELECTOR-225;SELECTOR-226;SELECTOR-227;SELECTOR-228;SELECTOR-229;SELECTOR-230;SELECTOR-231",
     "SELECTOR-232;SELECTOR-233;SELECTOR-234;SELECTOR-235;SELECTOR-236;SELECTOR-237;SELECTOR-238",
     "SELECTOR-239;SELECTOR-240;SELECTOR-241;SELECTOR-242;SELECTOR-243;SELECTOR-244;SELECTOR-245",
     "SELECTOR-246;SELECTOR-247;SELECTOR-248;SELECTOR-249;SELECTOR-250;SELECTOR-251;SELECTOR-252",
     "SELECTOR-253;SELECTOR-254;SELECTOR-255;SELECTOR-256"]⟩]

end Formulary.Text.CharacterName
