/-
  How the characters of a domain name are made uniform before it is read:
  capitals become small, compatible forms become plain ones, ignorable
  characters vanish, and three further full stops become the one of ASCII.
  The data are those of Unicode 14.
-/
import Formulary.Text.Table

namespace Formulary.Mapping

/-- Runs of characters that become one other each: the first, the last, the
    step between them and what the first becomes. -/
def runsText : String :=
    "160 160 1 32;170 170 1 97;178 179 1 50;181 181 1 956;185 185 1 49;186 186 1 111;"
    ++ "192 214 1 224;216 222 1 248;256 302 2 257;308 310 2 309;313 317 2 314;321 327 2 322;"
    ++ "330 374 2 331;376 376 1 255;377 381 2 378;383 383 1 115;385 385 1 595;386 388 2 387;"
    ++ "390 390 1 596;391 391 1 392;393 394 1 598;395 395 1 396;398 398 1 477;399 399 1 601;"
    ++ "400 400 1 603;401 401 1 402;403 403 1 608;404 404 1 611;406 406 1 617;407 407 1 616;"
    ++ "408 408 1 409;412 412 1 623;413 413 1 626;415 415 1 629;416 420 2 417;422 422 1 640;"
    ++ "423 423 1 424;425 425 1 643;428 428 1 429;430 430 1 648;431 431 1 432;433 434 1 650;"
    ++ "435 437 2 436;439 439 1 658;440 440 1 441;444 444 1 445;461 475 2 462;478 494 2 479;"
    ++ "500 500 1 501;502 502 1 405;503 503 1 447;504 542 2 505;544 544 1 414;546 562 2 547;"
    ++ "570 570 1 11365;571 571 1 572;573 573 1 410;574 574 1 11366;577 577 1 578;579 579 1 384;"
    ++ "580 580 1 649;581 581 1 652;582 590 2 583;688 688 1 104;689 689 1 614;690 690 1 106;"
    ++ "691 691 1 114;692 692 1 633;693 693 1 635;694 694 1 641;695 695 1 119;696 696 1 121;"
    ++ "736 736 1 611;737 737 1 108;738 738 1 115;739 739 1 120;740 740 1 661;832 833 1 768;"
    ++ "835 835 1 787;837 837 1 953;880 882 2 881;884 884 1 697;886 886 1 887;894 894 1 59;"
    ++ "895 895 1 1011;902 902 1 940;903 903 1 183;904 906 1 941;908 908 1 972;910 911 1 973;"
    ++ "913 929 1 945;931 939 1 963;975 975 1 983;976 976 1 946;977 977 1 952;978 978 1 965;"
    ++ "979 979 1 973;980 980 1 971;981 981 1 966;982 982 1 960;984 1006 2 985;1008 1008 1 954;"
    ++ "1009 1009 1 961;1010 1010 1 963;1012 1012 1 952;1013 1013 1 949;1015 1015 1 1016;"
    ++ "1017 1017 1 963;1018 1018 1 1019;1021 1023 1 891;1024 1039 1 1104;1040 1071 1 1072;"
    ++ "1120 1152 2 1121;1162 1214 2 1163;1216 1216 1 1231;1217 1229 2 1218;1232 1326 2 1233;"
    ++ "1329 1366 1 1377;3852 3852 1 3851;4256 4293 1 11520;4295 4295 1 11559;4301 4301 1 11565;"
    ++ "4348 4348 1 4316;5112 5117 1 5104;7296 7296 1 1074;7297 7297 1 1076;7298 7298 1 1086;"
    ++ "7299 7300 1 1089;7301 7301 1 1090;7302 7302 1 1098;7303 7303 1 1123;7304 7304 1 42571;"
    ++ "7312 7354 1 4304;7357 7359 1 4349;7468 7468 1 97;7469 7469 1 230;7470 7472 2 98;"
    ++ "7473 7473 1 101;7474 7474 1 477;7475 7482 1 103;7484 7484 1 111;7485 7485 1 547;"
    ++ "7486 7486 1 112;7487 7487 1 114;7488 7489 1 116;7490 7490 1 119;7491 7491 1 97;"
    ++ "7492 7493 1 592;7494 7494 1 7426;7495 7495 1 98;7496 7497 1 100;7498 7498 1 601;"
    ++ "7499 7500 1 603;7501 7501 1 103;7503 7503 1 107;7504 7504 1 109;7505 7505 1 331;"
    ++ "7506 7506 1 111;7507 7507 1 596;7508 7509 1 7446;7510 7510 1 112;7511 7512 1 116;"
    ++ "7513 7513 1 7453;7514 7514 1 623;7515 7515 1 118;7516 7516 1 7461;7517 7519 1 946;"
    ++ "7520 7521 1 966;7522 7522 1 105;7523 7523 1 114;7524 7525 1 117;7526 7527 1 946;"
    ++ "7528 7528 1 961;7529 7530 1 966;7544 7544 1 1085;7579 7579 1 594;7580 7580 1 99;"
    ++ "7581 7581 1 597;7582 7582 1 240;7583 7583 1 604;7584 7584 1 102;7585 7585 1 607;"
    ++ "7586 7586 1 609;7587 7587 1 613;7588 7590 1 616;7591 7591 1 7547;7592 7592 1 669;"
    ++ "7593 7593 1 621;7594 7594 1 7557;7595 7595 1 671;7596 7596 1 625;7597 7597 1 624;"
    ++ "7598 7601 1 626;7602 7602 1 632;7603 7604 1 642;7605 7605 1 427;7606 7607 1 649;"
    ++ "7608 7608 1 7452;7609 7610 1 651;7611 7611 1 122;7612 7614 1 656;7615 7615 1 952;"
    ++ "7680 7828 2 7681;7835 7835 1 7777;7838 7838 1 223;7840 7934 2 7841;7944 7951 1 7936;"
    ++ "7960 7965 1 7952;7976 7983 1 7968;7992 7999 1 7984;8008 8013 1 8000;8025 8031 2 8017;"
    ++ "8040 8047 1 8032;8049 8049 1 940;8051 8051 1 941;8053 8053 1 942;8055 8055 1 943;"
    ++ "8057 8057 1 972;8059 8059 1 973;8061 8061 1 974;8120 8121 1 8112;8122 8122 1 8048;"
    ++ "8123 8123 1 940;8126 8126 1 953;8136 8136 1 8050;8137 8137 1 941;8138 8138 1 8052;"
    ++ "8139 8139 1 942;8147 8147 1 912;8152 8153 1 8144;8154 8154 1 8054;8155 8155 1 943;"
    ++ "8163 8163 1 944;8168 8169 1 8160;8170 8170 1 8058;8171 8171 1 973;8172 8172 1 8165;"
    ++ "8175 8175 1 96;8184 8184 1 8056;8185 8185 1 972;8186 8186 1 8060;8187 8187 1 974;"
    ++ "8192 8192 1 32;8193 8193 1 32;8194 8194 1 32;8195 8195 1 32;8196 8196 1 32;8197 8197 1 32;"
    ++ "8198 8198 1 32;8199 8199 1 32;8200 8200 1 32;8201 8201 1 32;8202 8202 1 32;8209 8209 1 8208;"
    ++ "8239 8239 1 32;8287 8287 1 32;8304 8304 1 48;8305 8305 1 105;8308 8313 1 52;8314 8314 1 43;"
    ++ "8315 8315 1 8722;8316 8316 1 61;8317 8318 1 40;8319 8319 1 110;8320 8329 1 48;"
    ++ "8330 8330 1 43;8331 8331 1 8722;8332 8332 1 61;8333 8334 1 40;8336 8336 1 97;"
    ++ "8337 8337 1 101;8338 8338 1 111;8339 8339 1 120;8340 8340 1 601;8341 8341 1 104;"
    ++ "8342 8345 1 107;8346 8346 1 112;8347 8348 1 115;8450 8450 1 99;8455 8455 1 603;"
    ++ "8458 8459 1 103;8460 8460 1 104;8461 8461 1 104;8462 8462 1 104;8463 8463 1 295;"
    ++ "8464 8464 1 105;8465 8465 1 105;8466 8466 1 108;8467 8469 2 108;8473 8475 1 112;"
    ++ "8476 8476 1 114;8477 8477 1 114;8484 8484 1 122;8486 8486 1 969;8488 8488 1 122;"
    ++ "8490 8490 1 107;8491 8491 1 229;8492 8493 1 98;8495 8495 1 101;8496 8497 1 101;"
    ++ "8498 8498 1 8526;8499 8499 1 109;8500 8500 1 111;8501 8504 1 1488;8505 8505 1 105;"
    ++ "8508 8508 1 960;8509 8509 1 947;8510 8510 1 947;8511 8511 1 960;8512 8512 1 8721;"
    ++ "8517 8517 1 100;8518 8519 1 100;8520 8521 1 105;8544 8544 1 105;8548 8548 1 118;"
    ++ "8553 8553 1 120;8556 8556 1 108;8557 8558 1 99;8559 8559 1 109;8560 8560 1 105;"
    ++ "8564 8564 1 118;8569 8569 1 120;8572 8572 1 108;8573 8574 1 99;8575 8575 1 109;"
    ++ "8579 8579 1 8580;9001 9002 1 12296;9312 9320 1 49;9398 9423 1 97;9424 9449 1 97;"
    ++ "9450 9450 1 48;11264 11311 1 11312;11360 11360 1 11361;11362 11362 1 619;11363 11363 1 7549;"
    ++ "11364 11364 1 637;11367 11371 2 11368;11373 11373 1 593;11374 11374 1 625;11375 11375 1 592;"
    ++ "11376 11376 1 594;11378 11378 1 11379;11381 11381 1 11382;11388 11388 1 106;"
    ++ "11389 11389 1 118;11390 11391 1 575;11392 11490 2 11393;11499 11501 2 11500;"
    ++ "11506 11506 1 11507;11631 11631 1 11617;11935 11935 1 27597;12019 12019 1 40863;"
    ++ "12032 12032 1 19968;12033 12033 1 20008;12034 12034 1 20022;12035 12035 1 20031;"
    ++ "12036 12036 1 20057;12037 12037 1 20101;12038 12038 1 20108;12039 12039 1 20128;"
    ++ "12040 12040 1 20154;12041 12041 1 20799;12042 12042 1 20837;12043 12043 1 20843;"
    ++ "12044 12044 1 20866;12045 12045 1 20886;12046 12046 1 20907;12047 12047 1 20960;"
    ++ "12048 12048 1 20981;12049 12049 1 20992;12050 12050 1 21147;12051 12051 1 21241;"
    ++ "12052 12052 1 21269;12053 12053 1 21274;12054 12054 1 21304;12055 12055 1 21313;"
    ++ "12056 12056 1 21340;12057 12057 1 21353;12058 12058 1 21378;12059 12059 1 21430;"
    ++ "12060 12060 1 21448;12061 12061 1 21475;12062 12062 1 22231;12063 12063 1 22303;"
    ++ "12064 12064 1 22763;12065 12065 1 22786;12066 12066 1 22794;12067 12067 1 22805;"
    ++ "12068 12068 1 22823;12069 12069 1 22899;12070 12070 1 23376;12071 12071 1 23424;"
    ++ "12072 12072 1 23544;12073 12073 1 23567;12074 12074 1 23586;12075 12075 1 23608;"
    ++ "12076 12076 1 23662;12077 12077 1 23665;12078 12078 1 24027;12079 12079 1 24037;"
    ++ "12080 12080 1 24049;12081 12081 1 24062;12082 12082 1 24178;12083 12083 1 24186;"
    ++ "12084 12084 1 24191;12085 12085 1 24308;12086 12086 1 24318;12087 12087 1 24331;"
    ++ "12088 12088 1 24339;12089 12089 1 24400;12090 12090 1 24417;12091 12091 1 24435;"
    ++ "12092 12092 1 24515;12093 12093 1 25096;12094 12094 1 25142;12095 12095 1 25163;"
    ++ "12096 12096 1 25903;12097 12097 1 25908;12098 12098 1 25991;12099 12099 1 26007;"
    ++ "12100 12100 1 26020;12101 12101 1 26041;12102 12102 1 26080;12103 12103 1 26085;"
    ++ "12104 12104 1 26352;12105 12105 1 26376;12106 12106 1 26408;12107 12107 1 27424;"
    ++ "12108 12108 1 27490;12109 12109 1 27513;12110 12110 1 27571;12111 12111 1 27595;"
    ++ "12112 12112 1 27604;12113 12113 1 27611;12114 12114 1 27663;12115 12115 1 27668;"
    ++ "12116 12116 1 27700;12117 12117 1 28779;12118 12118 1 29226;12119 12119 1 29238;"
    ++ "12120 12120 1 29243;12121 12121 1 29247;12122 12122 1 29255;12123 12123 1 29273;"
    ++ "12124 12124 1 29275;12125 12125 1 29356;12126 12126 1 29572;12127 12127 1 29577;"
    ++ "12128 12128 1 29916;12129 12129 1 29926;12130 12130 1 29976;12131 12131 1 29983;"
    ++ "12132 12132 1 29992;12133 12133 1 30000;12134 12134 1 30091;12135 12135 1 30098;"
    ++ "12136 12136 1 30326;12137 12137 1 30333;12138 12138 1 30382;12139 12139 1 30399;"
    ++ "12140 12140 1 30446;12141 12141 1 30683;12142 12142 1 30690;12143 12143 1 30707;"
    ++ "12144 12144 1 31034;12145 12145 1 31160;12146 12146 1 31166;12147 12147 1 31348;"
    ++ "12148 12148 1 31435;12149 12149 1 31481;12150 12150 1 31859;12151 12151 1 31992;"
    ++ "12152 12152 1 32566;12153 12153 1 32593;12154 12154 1 32650;12155 12155 1 32701;"
    ++ "12156 12156 1 32769;12157 12157 1 32780;12158 12158 1 32786;12159 12159 1 32819;"
    ++ "12160 12160 1 32895;12161 12161 1 32905;12162 12162 1 33251;12163 12163 1 33258;"
    ++ "12164 12164 1 33267;12165 12165 1 33276;12166 12166 1 33292;12167 12167 1 33307;"
    ++ "12168 12168 1 33311;12169 12169 1 33390;12170 12170 1 33394;12171 12171 1 33400;"
    ++ "12172 12172 1 34381;12173 12173 1 34411;12174 12174 1 34880;12175 12175 1 34892;"
    ++ "12176 12176 1 34915;12177 12177 1 35198;12178 12178 1 35211;12179 12179 1 35282;"
    ++ "12180 12180 1 35328;12181 12181 1 35895;12182 12182 1 35910;12183 12183 1 35925;"
    ++ "12184 12184 1 35960;12185 12185 1 35997;12186 12186 1 36196;12187 12187 1 36208;"
    ++ "12188 12188 1 36275;12189 12189 1 36523;12190 12190 1 36554;12191 12191 1 36763;"
    ++ "12192 12192 1 36784;12193 12193 1 36789;12194 12194 1 37009;12195 12195 1 37193;"
    ++ "12196 12196 1 37318;12197 12197 1 37324;12198 12198 1 37329;12199 12199 1 38263;"
    ++ "12200 12200 1 38272;12201 12201 1 38428;12202 12202 1 38582;12203 12203 1 38585;"
    ++ "12204 12204 1 38632;12205 12205 1 38737;12206 12206 1 38750;12207 12207 1 38754;"
    ++ "12208 12208 1 38761;12209 12209 1 38859;12210 12210 1 38893;12211 12211 1 38899;"
    ++ "12212 12212 1 38913;12213 12213 1 39080;12214 12214 1 39131;12215 12215 1 39135;"
    ++ "12216 12216 1 39318;12217 12217 1 39321;12218 12218 1 39340;12219 12219 1 39592;"
    ++ "12220 12220 1 39640;12221 12221 1 39647;12222 12222 1 39717;12223 12223 1 39727;"
    ++ "12224 12224 1 39730;12225 12225 1 39740;12226 12226 1 39770;12227 12227 1 40165;"
    ++ "12228 12228 1 40565;12229 12229 1 40575;12230 12230 1 40613;12231 12231 1 40635;"
    ++ "12232 12232 1 40643;12233 12233 1 40653;12234 12234 1 40657;12235 12235 1 40697;"
    ++ "12236 12236 1 40701;12237 12237 1 40718;12238 12238 1 40723;12239 12239 1 40736;"
    ++ "12240 12240 1 40763;12241 12241 1 40778;12242 12242 1 40786;12243 12243 1 40845;"
    ++ "12244 12244 1 40860;12245 12245 1 40864;12288 12288 1 32;12290 12290 1 46;"
    ++ "12342 12342 1 12306;12344 12344 1 21313;12345 12346 1 21316;12593 12594 1 4352;"
    ++ "12595 12595 1 4522;12596 12596 1 4354;12597 12598 1 4524;12599 12601 1 4355;"
    ++ "12602 12607 1 4528;12608 12608 1 4378;12609 12611 1 4358;12612 12612 1 4385;"
    ++ "12613 12622 1 4361;12623 12643 1 4449;12645 12646 1 4372;12647 12648 1 4551;"
    ++ "12649 12649 1 4556;12650 12650 1 4558;12651 12651 1 4563;12652 12652 1 4567;"
    ++ "12653 12653 1 4569;12654 12654 1 4380;12655 12655 1 4573;12656 12656 1 4575;"
    ++ "12657 12658 1 4381;12659 12659 1 4384;12660 12661 1 4386;12662 12662 1 4391;"
    ++ "12663 12663 1 4393;12664 12668 1 4395;12669 12669 1 4402;12670 12670 1 4406;"
    ++ "12671 12671 1 4416;12672 12672 1 4423;12673 12673 1 4428;12674 12675 1 4593;"
    ++ "12676 12678 1 4439;12679 12680 1 4484;12681 12681 1 4488;12682 12683 1 4497;"
    ++ "12684 12684 1 4500;12685 12685 1 4510;12686 12686 1 4513;12690 12690 1 19968;"
    ++ "12691 12691 1 20108;12692 12692 1 19977;12693 12693 1 22235;12694 12694 1 19978;"
    ++ "12695 12695 1 20013;12696 12696 1 19979;12697 12697 1 30002;12698 12698 1 20057;"
    ++ "12699 12699 1 19993;12700 12700 1 19969;12701 12701 1 22825;12702 12702 1 22320;"
    ++ "12703 12703 1 20154;12868 12868 1 21839;12869 12869 1 24188;12870 12870 1 25991;"
    ++ "12871 12871 1 31631;12896 12896 1 4352;12897 12898 1 4354;12899 12901 1 4357;"
    ++ "12902 12902 1 4361;12903 12904 1 4363;12905 12909 1 4366;12910 12910 1 44032;"
    ++ "12911 12911 1 45208;12912 12912 1 45796;12913 12913 1 46972;12914 12914 1 47560;"
    ++ "12915 12915 1 48148;12916 12916 1 49324;12917 12917 1 50500;12918 12918 1 51088;"
    ++ "12919 12919 1 52264;12920 12920 1 52852;12921 12921 1 53440;12922 12922 1 54028;"
    ++ "12923 12923 1 54616;12926 12926 1 50864;12928 12928 1 19968;12929 12929 1 20108;"
    ++ "12930 12930 1 19977;12931 12931 1 22235;12932 12932 1 20116;12933 12933 1 20845;"
    ++ "12934 12934 1 19971;12935 12935 1 20843;12936 12936 1 20061;12937 12937 1 21313;"
    ++ "12938 12938 1 26376;12939 12939 1 28779;12940 12940 1 27700;12941 12941 1 26408;"
    ++ "12942 12942 1 37329;12943 12943 1 22303;12944 12944 1 26085;12945 12945 1 26666;"
    ++ "12946 12946 1 26377;12947 12947 1 31038;12948 12948 1 21517;12949 12949 1 29305;"
    ++ "12950 12950 1 36001;12951 12951 1 31069;12952 12952 1 21172;12953 12953 1 31192;"
    ++ "12954 12954 1 30007;12955 12955 1 22899;12956 12956 1 36969;12957 12957 1 20778;"
    ++ "12958 12958 1 21360;12959 12959 1 27880;12960 12960 1 38917;12961 12961 1 20241;"
    ++ "12962 12962 1 20889;12963 12963 1 27491;12964 12964 1 19978;12965 12965 1 20013;"
    ++ "12966 12966 1 19979;12967 12967 1 24038;12968 12968 1 21491;12969 12969 1 21307;"
    ++ "12970 12970 1 23447;12971 12971 1 23398;12972 12972 1 30435;12973 12973 1 20225;"
    ++ "12974 12974 1 36039;12975 12975 1 21332;12976 12976 1 22812;13008 13008 1 12450;"
    ++ "13009 13009 1 12452;13010 13010 1 12454;13011 13011 1 12456;13012 13013 1 12458;"
    ++ "13014 13014 1 12461;13015 13015 1 12463;13016 13016 1 12465;13017 13017 1 12467;"
    ++ "13018 13018 1 12469;13019 13019 1 12471;13020 13020 1 12473;13021 13021 1 12475;"
    ++ "13022 13022 1 12477;13023 13023 1 12479;13024 13024 1 12481;13025 13025 1 12484;"
    ++ "13026 13026 1 12486;13027 13027 1 12488;13028 13033 1 12490;13034 13034 1 12498;"
    ++ "13035 13035 1 12501;13036 13036 1 12504;13037 13037 1 12507;13038 13042 1 12510;"
    ++ "13043 13043 1 12516;13044 13044 1 12518;13045 13050 1 12520;13051 13054 1 12527;"
    ++ "42560 42604 2 42561;42624 42650 2 42625;42652 42652 1 1098;42653 42653 1 1100;"
    ++ "42786 42798 2 42787;42802 42862 2 42803;42864 42864 1 42863;42873 42875 2 42874;"
    ++ "42877 42877 1 7545;42878 42886 2 42879;42891 42891 1 42892;42893 42893 1 613;"
    ++ "42896 42898 2 42897;42902 42920 2 42903;42922 42922 1 614;42923 42923 1 604;"
    ++ "42924 42924 1 609;42925 42925 1 620;42926 42926 1 618;42928 42928 1 670;42929 42929 1 647;"
    ++ "42930 42930 1 669;42931 42931 1 43859;42932 42946 2 42933;42948 42948 1 42900;"
    ++ "42949 42949 1 642;42950 42950 1 7566;42951 42953 2 42952;42960 42960 1 42961;"
    ++ "42966 42968 2 42967;42994 42994 1 99;42995 42995 1 102;42996 42996 1 113;"
    ++ "42997 42997 1 42998;43000 43000 1 295;43001 43001 1 339;43868 43868 1 42791;"
    ++ "43869 43869 1 43831;43870 43870 1 619;43871 43871 1 43858;43881 43881 1 653;"
    ++ "43888 43967 1 5024;63744 63744 1 35912;63745 63745 1 26356;63746 63746 1 36554;"
    ++ "63747 63747 1 36040;63748 63748 1 28369;63749 63749 1 20018;63750 63750 1 21477;"
    ++ "63751 63751 1 40860;63752 63752 1 40860;63753 63753 1 22865;63754 63754 1 37329;"
    ++ "63755 63755 1 21895;63756 63756 1 22856;63757 63757 1 25078;63758 63758 1 30313;"
    ++ "63759 63759 1 32645;63760 63760 1 34367;63761 63761 1 34746;63762 63762 1 35064;"
    ++ "63763 63763 1 37007;63764 63764 1 27138;63765 63765 1 27931;63766 63766 1 28889;"
    ++ "63767 63767 1 29662;63768 63768 1 33853;63769 63769 1 37226;63770 63770 1 39409;"
    ++ "63771 63771 1 20098;63772 63772 1 21365;63773 63773 1 27396;63774 63774 1 29211;"
    ++ "63775 63775 1 34349;63776 63776 1 40478;63777 63777 1 23888;63778 63778 1 28651;"
    ++ "63779 63779 1 34253;63780 63780 1 35172;63781 63781 1 25289;63782 63782 1 33240;"
    ++ "63783 63783 1 34847;63784 63784 1 24266;63785 63785 1 26391;63786 63786 1 28010;"
    ++ "63787 63787 1 29436;63788 63788 1 37070;63789 63789 1 20358;63790 63790 1 20919;"
    ++ "63791 63791 1 21214;63792 63792 1 25796;63793 63793 1 27347;63794 63794 1 29200;"
    ++ "63795 63795 1 30439;63796 63796 1 32769;63797 63797 1 34310;63798 63798 1 34396;"
    ++ "63799 63799 1 36335;63800 63800 1 38706;63801 63801 1 39791;63802 63802 1 40442;"
    ++ "63803 63803 1 30860;63804 63804 1 31103;63805 63805 1 32160;63806 63806 1 33737;"
    ++ "63807 63807 1 37636;63808 63808 1 40575;63809 63809 1 35542;63810 63810 1 22751;"
    ++ "63811 63811 1 24324;63812 63812 1 31840;63813 63813 1 32894;63814 63814 1 29282;"
    ++ "63815 63815 1 30922;63816 63816 1 36034;63817 63817 1 38647;63818 63818 1 22744;"
    ++ "63819 63819 1 23650;63820 63820 1 27155;63821 63821 1 28122;63822 63822 1 28431;"
    ++ "63823 63823 1 32047;63824 63824 1 32311;63825 63825 1 38475;63826 63826 1 21202;"
    ++ "63827 63827 1 32907;63828 63828 1 20956;63829 63829 1 20940;63830 63830 1 31260;"
    ++ "63831 63831 1 32190;63832 63832 1 33777;63833 63833 1 38517;63834 63834 1 35712;"
    ++ "63835 63835 1 25295;63836 63836 1 27138;63837 63837 1 35582;63838 63838 1 20025;"
    ++ "63839 63839 1 23527;63840 63840 1 24594;63841 63841 1 29575;63842 63842 1 30064;"
    ++ "63843 63843 1 21271;63844 63844 1 30971;63845 63845 1 20415;63846 63846 1 24489;"
    ++ "63847 63847 1 19981;63848 63848 1 27852;63849 63849 1 25976;63850 63850 1 32034;"
    ++ "63851 63851 1 21443;63852 63852 1 22622;63853 63853 1 30465;63854 63854 1 33865;"
    ++ "63855 63855 1 35498;63856 63856 1 27578;63857 63857 1 36784;63858 63858 1 27784;"
    ++ "63859 63859 1 25342;63860 63860 1 33509;63861 63861 1 25504;63862 63862 1 30053;"
    ++ "63863 63863 1 20142;63864 63864 1 20841;63865 63865 1 20937;63866 63866 1 26753;"
    ++ "63867 63867 1 31975;63868 63868 1 33391;63869 63869 1 35538;63870 63870 1 37327;"
    ++ "63871 63871 1 21237;63872 63872 1 21570;63873 63873 1 22899;63874 63874 1 24300;"
    ++ "63875 63875 1 26053;63876 63876 1 28670;63877 63877 1 31018;63878 63878 1 38317;"
    ++ "63879 63879 1 39530;63880 63880 1 40599;63881 63881 1 40654;63882 63882 1 21147;"
    ++ "63883 63883 1 26310;63884 63884 1 27511;63885 63885 1 36706;63886 63886 1 24180;"
    ++ "63887 63887 1 24976;63888 63888 1 25088;63889 63889 1 25754;63890 63890 1 28451;"
    ++ "63891 63891 1 29001;63892 63892 1 29833;63893 63893 1 31178;63894 63894 1 32244;"
    ++ "63895 63895 1 32879;63896 63896 1 36646;63897 63897 1 34030;63898 63898 1 36899;"
    ++ "63899 63899 1 37706;63900 63900 1 21015;63901 63901 1 21155;63902 63902 1 21693;"
    ++ "63903 63903 1 28872;63904 63904 1 35010;63905 63905 1 35498;63906 63906 1 24265;"
    ++ "63907 63907 1 24565;63908 63908 1 25467;63909 63909 1 27566;63910 63910 1 31806;"
    ++ "63911 63911 1 29557;63912 63912 1 20196;63913 63913 1 22265;63914 63914 1 23527;"
    ++ "63915 63915 1 23994;63916 63916 1 24604;63917 63917 1 29618;63918 63918 1 29801;"
    ++ "63919 63919 1 32666;63920 63920 1 32838;63921 63921 1 37428;63922 63922 1 38646;"
    ++ "63923 63923 1 38728;63924 63924 1 38936;63925 63925 1 20363;63926 63926 1 31150;"
    ++ "63927 63927 1 37300;63928 63928 1 38584;63929 63929 1 24801;63930 63930 1 20102;"
    ++ "63931 63931 1 20698;63932 63932 1 23534;63933 63933 1 23615;63934 63934 1 26009;"
    ++ "63935 63935 1 27138;63936 63936 1 29134;63937 63937 1 30274;63938 63938 1 34044;"
    ++ "63939 63939 1 36988;63940 63940 1 40845;63941 63941 1 26248;63942 63942 1 38446;"
    ++ "63943 63943 1 21129;63944 63944 1 26491;63945 63945 1 26611;63946 63946 1 27969;"
    ++ "63947 63947 1 28316;63948 63948 1 29705;63949 63949 1 30041;63950 63950 1 30827;"
    ++ "63951 63951 1 32016;63952 63952 1 39006;63953 63953 1 20845;63954 63954 1 25134;"
    ++ "63955 63955 1 38520;63956 63956 1 20523;63957 63957 1 23833;63958 63958 1 28138;"
    ++ "63959 63959 1 36650;63960 63960 1 24459;63961 63961 1 24900;63962 63962 1 26647;"
    ++ "63963 63963 1 29575;63964 63964 1 38534;63965 63965 1 21033;63966 63966 1 21519;"
    ++ "63967 63967 1 23653;63968 63968 1 26131;63969 63969 1 26446;63970 63970 1 26792;"
    ++ "63971 63971 1 27877;63972 63972 1 29702;63973 63973 1 30178;63974 63974 1 32633;"
    ++ "63975 63975 1 35023;63976 63976 1 35041;63977 63977 1 37324;63978 63978 1 38626;"
    ++ "63979 63979 1 21311;63980 63980 1 28346;63981 63981 1 21533;63982 63982 1 29136;"
    ++ "63983 63983 1 29848;63984 63984 1 34298;63985 63985 1 38563;63986 63986 1 40023;"
    ++ "63987 63987 1 40607;63988 63988 1 26519;63989 63989 1 28107;63990 63990 1 33256;"
    ++ "63991 63991 1 31435;63992 63992 1 31520;63993 63993 1 31890;63994 63994 1 29376;"
    ++ "63995 63995 1 28825;63996 63996 1 35672;63997 63997 1 20160;63998 63998 1 33590;"
    ++ "63999 63999 1 21050;64000 64000 1 20999;64001 64001 1 24230;64002 64002 1 25299;"
    ++ "64003 64003 1 31958;64004 64004 1 23429;64005 64005 1 27934;64006 64006 1 26292;"
    ++ "64007 64007 1 36667;64008 64008 1 34892;64009 64009 1 38477;64010 64010 1 35211;"
    ++ "64011 64011 1 24275;64012 64012 1 20800;64013 64013 1 21952;64016 64016 1 22618;"
    ++ "64018 64018 1 26228;64021 64021 1 20958;64022 64022 1 29482;64023 64023 1 30410;"
    ++ "64024 64024 1 31036;64025 64025 1 31070;64026 64026 1 31077;64027 64027 1 31119;"
    ++ "64028 64028 1 38742;64029 64029 1 31934;64030 64030 1 32701;64032 64032 1 34322;"
    ++ "64034 64034 1 35576;64037 64037 1 36920;64038 64038 1 37117;64042 64042 1 39151;"
    ++ "64043 64043 1 39164;64044 64044 1 39208;64045 64045 1 40372;64046 64046 1 37086;"
    ++ "64047 64047 1 38583;64048 64048 1 20398;64049 64049 1 20711;64050 64050 1 20813;"
    ++ "64051 64051 1 21193;64052 64052 1 21220;64053 64053 1 21329;64054 64054 1 21917;"
    ++ "64055 64055 1 22022;64056 64056 1 22120;64057 64057 1 22592;64058 64058 1 22696;"
    ++ "64059 64059 1 23652;64060 64060 1 23662;64061 64061 1 24724;64062 64062 1 24936;"
    ++ "64063 64063 1 24974;64064 64064 1 25074;64065 64065 1 25935;64066 64066 1 26082;"
    ++ "64067 64067 1 26257;64068 64068 1 26757;64069 64069 1 28023;64070 64070 1 28186;"
    ++ "64071 64071 1 28450;64072 64072 1 29038;64073 64073 1 29227;64074 64074 1 29730;"
    ++ "64075 64075 1 30865;64076 64076 1 31038;64077 64077 1 31049;64078 64078 1 31048;"
    ++ "64079 64079 1 31056;64080 64080 1 31062;64081 64081 1 31069;64082 64083 1 31117;"
    ++ "64084 64084 1 31296;64085 64085 1 31361;64086 64086 1 31680;64087 64087 1 32244;"
    ++ "64088 64088 1 32265;64089 64089 1 32321;64090 64090 1 32626;64091 64091 1 32773;"
    ++ "64092 64092 1 33261;64093 64093 1 33401;64094 64094 1 33401;64095 64095 1 33879;"
    ++ "64096 64096 1 35088;64097 64097 1 35222;64098 64098 1 35585;64099 64099 1 35641;"
    ++ "64100 64100 1 36051;64101 64101 1 36104;64102 64102 1 36790;64103 64103 1 36920;"
    ++ "64104 64104 1 38627;64105 64105 1 38911;64106 64106 1 38971;64107 64107 1 24693;"
    ++ "64108 64108 1 148206;64109 64109 1 33304;64112 64112 1 20006;64113 64113 1 20917;"
    ++ "64114 64114 1 20840;64115 64115 1 20352;64116 64116 1 20805;64117 64117 1 20864;"
    ++ "64118 64118 1 21191;64119 64119 1 21242;64120 64120 1 21917;64121 64121 1 21845;"
    ++ "64122 64122 1 21913;64123 64123 1 21986;64124 64124 1 22618;64125 64125 1 22707;"
    ++ "64126 64126 1 22852;64127 64127 1 22868;64128 64128 1 23138;64129 64129 1 23336;"
    ++ "64130 64130 1 24274;64131 64131 1 24281;64132 64132 1 24425;64133 64133 1 24493;"
    ++ "64134 64134 1 24792;64135 64135 1 24910;64136 64136 1 24840;64137 64137 1 24974;"
    ++ "64138 64138 1 24928;64139 64139 1 25074;64140 64140 1 25140;64141 64141 1 25540;"
    ++ "64142 64142 1 25628;64143 64143 1 25682;64144 64144 1 25942;64145 64145 1 26228;"
    ++ "64146 64146 1 26391;64147 64147 1 26395;64148 64148 1 26454;64149 64149 1 27513;"
    ++ "64150 64150 1 27578;64151 64151 1 27969;64152 64152 1 28379;64153 64153 1 28363;"
    ++ "64154 64154 1 28450;64155 64155 1 28702;64156 64156 1 29038;64157 64157 1 30631;"
    ++ "64158 64158 1 29237;64159 64159 1 29359;64160 64160 1 29482;64161 64161 1 29809;"
    ++ "64162 64162 1 29958;64163 64163 1 30011;64164 64164 1 30237;64165 64165 1 30239;"
    ++ "64166 64166 1 30410;64167 64167 1 30427;64168 64168 1 30452;64169 64169 1 30538;"
    ++ "64170 64170 1 30528;64171 64171 1 30924;64172 64172 1 31409;64173 64173 1 31680;"
    ++ "64174 64174 1 31867;64175 64175 1 32091;64176 64176 1 32244;64177 64177 1 32574;"
    ++ "64178 64178 1 32773;64179 64179 1 33618;64180 64180 1 33775;64181 64181 1 34681;"
    ++ "64182 64182 1 35137;64183 64183 1 35206;64184 64184 1 35222;64185 64185 1 35519;"
    ++ "64186 64186 1 35576;64187 64187 1 35531;64188 64188 1 35585;64189 64189 1 35582;"
    ++ "64190 64190 1 35565;64191 64191 1 35641;64192 64192 1 35722;64193 64193 1 36104;"
    ++ "64194 64194 1 36664;64195 64195 1 36978;64196 64196 1 37273;64197 64197 1 37494;"
    ++ "64198 64198 1 38524;64199 64199 1 38627;64200 64200 1 38742;64201 64201 1 38875;"
    ++ "64202 64202 1 38911;64203 64203 1 38923;64204 64204 1 38971;64205 64205 1 39698;"
    ++ "64206 64206 1 40860;64207 64207 1 141386;64208 64208 1 141380;64209 64209 1 144341;"
    ++ "64210 64210 1 15261;64211 64211 1 16408;64212 64212 1 16441;64213 64213 1 152137;"
    ++ "64214 64214 1 154832;64215 64215 1 163539;64216 64216 1 40771;64217 64217 1 40846;"
    ++ "64288 64288 1 1506;64289 64289 1 1488;64290 64291 1 1491;64292 64294 1 1499;"
    ++ "64295 64295 1 1512;64296 64296 1 1514;64297 64297 1 43;64336 64336 1 1649;"
    ++ "64337 64337 1 1649;64338 64338 1 1659;64339 64339 1 1659;64340 64340 1 1659;"
    ++ "64341 64341 1 1659;64342 64342 1 1662;64343 64343 1 1662;64344 64344 1 1662;"
    ++ "64345 64345 1 1662;64346 64346 1 1664;64347 64347 1 1664;64348 64348 1 1664;"
    ++ "64349 64349 1 1664;64350 64350 1 1658;64351 64351 1 1658;64352 64352 1 1658;"
    ++ "64353 64353 1 1658;64354 64354 1 1663;64355 64355 1 1663;64356 64356 1 1663;"
    ++ "64357 64357 1 1663;64358 64358 1 1657;64359 64359 1 1657;64360 64360 1 1657;"
    ++ "64361 64361 1 1657;64362 64362 1 1700;64363 64363 1 1700;64364 64364 1 1700;"
    ++ "64365 64365 1 1700;64366 64366 1 1702;64367 64367 1 1702;64368 64368 1 1702;"
    ++ "64369 64369 1 1702;64370 64370 1 1668;64371 64371 1 1668;64372 64372 1 1668;"
    ++ "64373 64373 1 1668;64374 64374 1 1667;64375 64375 1 1667;64376 64376 1 1667;"
    ++ "64377 64377 1 1667;64378 64378 1 1670;64379 64379 1 1670;64380 64380 1 1670;"
    ++ "64381 64382 1 1670;64383 64383 1 1671;64384 64384 1 1671;64385 64385 1 1671;"
    ++ "64386 64386 1 1677;64387 64387 1 1677;64388 64388 1 1676;64389 64389 1 1676;"
    ++ "64390 64390 1 1678;64391 64391 1 1678;64392 64392 1 1672;64393 64393 1 1672;"
    ++ "64394 64394 1 1688;64395 64395 1 1688;64396 64396 1 1681;64397 64397 1 1681;"
    ++ "64398 64398 1 1705;64399 64399 1 1705;64400 64400 1 1705;64401 64401 1 1705;"
    ++ "64402 64402 1 1711;64403 64403 1 1711;64404 64404 1 1711;64405 64405 1 1711;"
    ++ "64406 64406 1 1715;64407 64407 1 1715;64408 64408 1 1715;64409 64409 1 1715;"
    ++ "64410 64410 1 1713;64411 64411 1 1713;64412 64412 1 1713;64413 64413 1 1713;"
    ++ "64414 64414 1 1722;64415 64416 1 1722;64417 64417 1 1723;64418 64418 1 1723;"
    ++ "64419 64419 1 1723;64420 64420 1 1728;64421 64422 1 1728;64423 64423 1 1729;"
    ++ "64424 64424 1 1729;64425 64425 1 1729;64426 64426 1 1726;64427 64427 1 1726;"
    ++ "64428 64428 1 1726;64429 64429 1 1726;64430 64430 1 1746;64431 64432 1 1746;"
    ++ "64433 64433 1 1747;64467 64467 1 1709;64468 64468 1 1709;64469 64469 1 1709;"
    ++ "64470 64470 1 1709;64471 64471 1 1735;64472 64472 1 1735;64473 64473 1 1734;"
    ++ "64474 64474 1 1734;64475 64475 1 1736;64476 64476 1 1736;64478 64478 1 1739;"
    ++ "64479 64479 1 1739;64480 64480 1 1733;64481 64481 1 1733;64482 64482 1 1737;"
    ++ "64483 64483 1 1737;64484 64484 1 1744;64485 64485 1 1744;64486 64486 1 1744;"
    ++ "64487 64487 1 1744;64488 64488 1 1609;64489 64489 1 1609;64508 64508 1 1740;"
    ++ "64509 64509 1 1740;64510 64510 1 1740;64511 64511 1 1740;65040 65040 1 44;"
    ++ "65041 65042 1 12289;65043 65044 1 58;65045 65045 1 33;65046 65046 1 63;65047 65048 1 12310;"
    ++ "65073 65073 1 8212;65074 65074 1 8211;65075 65075 1 95;65076 65076 1 95;65077 65078 1 40;"
    ++ "65079 65079 1 123;65080 65080 1 125;65081 65082 1 12308;65083 65084 1 12304;"
    ++ "65085 65086 1 12298;65087 65088 1 12296;65089 65092 1 12300;65095 65095 1 91;"
    ++ "65096 65096 1 93;65101 65101 1 95;65102 65102 1 95;65103 65103 1 95;65104 65104 1 44;"
    ++ "65105 65105 1 12289;65108 65108 1 59;65109 65109 1 58;65110 65110 1 63;65111 65111 1 33;"
    ++ "65112 65112 1 8212;65113 65114 1 40;65115 65115 1 123;65116 65116 1 125;65117 65118 1 12308;"
    ++ "65119 65119 1 35;65120 65120 1 38;65121 65122 1 42;65123 65123 1 45;65124 65124 1 60;"
    ++ "65125 65125 1 62;65126 65126 1 61;65128 65128 1 92;65129 65130 1 36;65131 65131 1 64;"
    ++ "65152 65153 1 1569;65154 65155 1 1570;65156 65157 1 1571;65158 65159 1 1572;"
    ++ "65160 65161 1 1573;65162 65162 1 1574;65163 65163 1 1574;65164 65165 1 1574;"
    ++ "65166 65167 1 1575;65168 65168 1 1576;65169 65169 1 1576;65170 65171 1 1576;"
    ++ "65172 65173 1 1577;65174 65174 1 1578;65175 65175 1 1578;65176 65177 1 1578;"
    ++ "65178 65178 1 1579;65179 65179 1 1579;65180 65181 1 1579;65182 65182 1 1580;"
    ++ "65183 65183 1 1580;65184 65185 1 1580;65186 65186 1 1581;65187 65187 1 1581;"
    ++ "65188 65189 1 1581;65190 65190 1 1582;65191 65191 1 1582;65192 65193 1 1582;"
    ++ "65194 65195 1 1583;65196 65197 1 1584;65198 65199 1 1585;65200 65201 1 1586;"
    ++ "65202 65202 1 1587;65203 65203 1 1587;65204 65205 1 1587;65206 65206 1 1588;"
    ++ "65207 65207 1 1588;65208 65209 1 1588;65210 65210 1 1589;65211 65211 1 1589;"
    ++ "65212 65213 1 1589;65214 65214 1 1590;65215 65215 1 1590;65216 65217 1 1590;"
    ++ "65218 65218 1 1591;65219 65219 1 1591;65220 65221 1 1591;65222 65222 1 1592;"
    ++ "65223 65223 1 1592;65224 65225 1 1592;65226 65226 1 1593;65227 65227 1 1593;"
    ++ "65228 65229 1 1593;65230 65230 1 1594;65231 65231 1 1594;65232 65232 1 1594;"
    ++ "65233 65233 1 1601;65234 65234 1 1601;65235 65235 1 1601;65236 65237 1 1601;"
    ++ "65238 65238 1 1602;65239 65239 1 1602;65240 65241 1 1602;65242 65242 1 1603;"
    ++ "65243 65243 1 1603;65244 65245 1 1603;65246 65246 1 1604;65247 65247 1 1604;"
    ++ "65248 65249 1 1604;65250 65250 1 1605;65251 65251 1 1605;65252 65253 1 1605;"
    ++ "65254 65254 1 1606;65255 65255 1 1606;65256 65257 1 1606;65258 65258 1 1607;"
    ++ "65259 65259 1 1607;65260 65261 1 1607;65262 65263 1 1608;65264 65265 1 1609;"
    ++ "65266 65266 1 1610;65267 65267 1 1610;65268 65268 1 1610;65281 65312 1 33;65313 65338 1 97;"
    ++ "65339 65374 1 91;65375 65376 1 10629;65377 65377 1 46;65378 65379 1 12300;"
    ++ "65380 65380 1 12289;65381 65381 1 12539;65382 65382 1 12530;65383 65383 1 12449;"
    ++ "65384 65384 1 12451;65385 65385 1 12453;65386 65386 1 12455;65387 65387 1 12457;"
    ++ "65388 65388 1 12515;65389 65389 1 12517;65390 65390 1 12519;65391 65391 1 12483;"
    ++ "65392 65392 1 12540;65393 65393 1 12450;65394 65394 1 12452;65395 65395 1 12454;"
    ++ "65396 65396 1 12456;65397 65398 1 12458;65399 65399 1 12461;65400 65400 1 12463;"
    ++ "65401 65401 1 12465;65402 65402 1 12467;65403 65403 1 12469;65404 65404 1 12471;"
    ++ "65405 65405 1 12473;65406 65406 1 12475;65407 65407 1 12477;65408 65408 1 12479;"
    ++ "65409 65409 1 12481;65410 65410 1 12484;65411 65411 1 12486;65412 65412 1 12488;"
    ++ "65413 65418 1 12490;65419 65419 1 12498;65420 65420 1 12501;65421 65421 1 12504;"
    ++ "65422 65422 1 12507;65423 65427 1 12510;65428 65428 1 12516;65429 65429 1 12518;"
    ++ "65430 65435 1 12520;65436 65436 1 12527;65437 65437 1 12531;65438 65439 1 12441;"
    ++ "65441 65442 1 4352;65443 65443 1 4522;65444 65444 1 4354;65445 65446 1 4524;"
    ++ "65447 65449 1 4355;65450 65455 1 4528;65456 65456 1 4378;65457 65459 1 4358;"
    ++ "65460 65460 1 4385;65461 65470 1 4361;65474 65479 1 4449;65482 65487 1 4455;"
    ++ "65490 65495 1 4461;65498 65500 1 4467;65504 65505 1 162;65506 65506 1 172;65508 65508 1 166;"
    ++ "65509 65509 1 165;65510 65510 1 8361;65512 65512 1 9474;65513 65516 1 8592;"
    ++ "65517 65517 1 9632;65518 65518 1 9675;66560 66599 1 66600;66736 66771 1 66776;"
    ++ "66928 66938 1 66967;66940 66954 1 66979;66956 66962 1 66995;66964 66965 1 67003;"
    ++ "67457 67458 1 720;67459 67459 1 230;67460 67460 1 665;67461 67461 1 595;67463 67463 1 675;"
    ++ "67464 67464 1 43878;67465 67465 1 677;67466 67466 1 676;67467 67468 1 598;"
    ++ "67469 67469 1 7569;67470 67470 1 600;67471 67471 1 606;67472 67472 1 681;67473 67473 1 612;"
    ++ "67474 67474 1 610;67475 67475 1 608;67476 67476 1 667;67477 67477 1 295;67478 67478 1 668;"
    ++ "67479 67479 1 615;67480 67480 1 644;67481 67482 1 682;67483 67483 1 620;"
    ++ "67484 67484 1 122628;67485 67485 1 42894;67486 67486 1 622;67487 67487 1 122629;"
    ++ "67488 67488 1 654;67489 67489 1 122630;67490 67490 1 248;67491 67492 1 630;"
    ++ "67493 67493 1 113;67494 67494 1 634;67495 67495 1 122632;67496 67497 1 637;"
    ++ "67498 67498 1 640;67499 67499 1 680;67500 67500 1 678;67501 67501 1 43879;67502 67502 1 679;"
    ++ "67503 67503 1 648;67504 67504 1 11377;67506 67506 1 655;67507 67508 1 673;67509 67509 1 664;"
    ++ "67510 67512 1 448;67513 67513 1 122634;67514 67514 1 122654;68736 68786 1 68800;"
    ++ "71840 71871 1 71872;93760 93791 1 93792;119808 119833 1 97;119834 119859 1 97;"
    ++ "119860 119885 1 97;119886 119892 1 97;119894 119911 1 105;119912 119937 1 97;"
    ++ "119938 119963 1 97;119964 119966 2 97;119967 119967 1 100;119970 119970 1 103;"
    ++ "119973 119974 1 106;119977 119980 1 110;119982 119989 1 115;119990 119993 1 97;"
    ++ "119995 119997 2 102;119998 120003 1 105;120005 120015 1 112;120016 120041 1 97;"
    ++ "120042 120067 1 97;120068 120069 1 97;120071 120074 1 100;120077 120084 1 106;"
    ++ "120086 120092 1 115;120094 120119 1 97;120120 120121 1 97;120123 120126 1 100;"
    ++ "120128 120132 1 105;120134 120134 1 111;120138 120144 1 115;120146 120171 1 97;"
    ++ "120172 120197 1 97;120198 120223 1 97;120224 120249 1 97;120250 120275 1 97;"
    ++ "120276 120301 1 97;120302 120327 1 97;120328 120353 1 97;120354 120379 1 97;"
    ++ "120380 120405 1 97;120406 120431 1 97;120432 120457 1 97;120458 120483 1 97;"
    ++ "120484 120484 1 305;120485 120485 1 567;120488 120504 1 945;120505 120505 1 952;"
    ++ "120506 120512 1 963;120513 120513 1 8711;120514 120530 1 945;120531 120531 1 963;"
    ++ "120532 120538 1 963;120539 120539 1 8706;120540 120540 1 949;120541 120541 1 952;"
    ++ "120542 120542 1 954;120543 120543 1 966;120544 120544 1 961;120545 120545 1 960;"
    ++ "120546 120562 1 945;120563 120563 1 952;120564 120570 1 963;120571 120571 1 8711;"
    ++ "120572 120588 1 945;120589 120589 1 963;120590 120596 1 963;120597 120597 1 8706;"
    ++ "120598 120598 1 949;120599 120599 1 952;120600 120600 1 954;120601 120601 1 966;"
    ++ "120602 120602 1 961;120603 120603 1 960;120604 120620 1 945;120621 120621 1 952;"
    ++ "120622 120628 1 963;120629 120629 1 8711;120630 120646 1 945;120647 120647 1 963;"
    ++ "120648 120654 1 963;120655 120655 1 8706;120656 120656 1 949;120657 120657 1 952;"
    ++ "120658 120658 1 954;120659 120659 1 966;120660 120660 1 961;120661 120661 1 960;"
    ++ "120662 120678 1 945;120679 120679 1 952;120680 120686 1 963;120687 120687 1 8711;"
    ++ "120688 120704 1 945;120705 120705 1 963;120706 120712 1 963;120713 120713 1 8706;"
    ++ "120714 120714 1 949;120715 120715 1 952;120716 120716 1 954;120717 120717 1 966;"
    ++ "120718 120718 1 961;120719 120719 1 960;120720 120736 1 945;120737 120737 1 952;"
    ++ "120738 120744 1 963;120745 120745 1 8711;120746 120762 1 945;120763 120763 1 963;"
    ++ "120764 120770 1 963;120771 120771 1 8706;120772 120772 1 949;120773 120773 1 952;"
    ++ "120774 120774 1 954;120775 120775 1 966;120776 120776 1 961;120777 120777 1 960;"
    ++ "120778 120778 1 989;120779 120779 1 989;120782 120791 1 48;120792 120801 1 48;"
    ++ "120802 120811 1 48;120812 120821 1 48;120822 120831 1 48;125184 125217 1 125218;"
    ++ "126464 126465 1 1575;126466 126466 1 1580;126467 126467 1 1583;126469 126469 1 1608;"
    ++ "126470 126470 1 1586;126471 126471 1 1581;126472 126472 1 1591;126473 126473 1 1610;"
    ++ "126474 126477 1 1603;126478 126478 1 1587;126479 126479 1 1593;126480 126480 1 1601;"
    ++ "126481 126481 1 1589;126482 126482 1 1602;126483 126483 1 1585;126484 126484 1 1588;"
    ++ "126485 126486 1 1578;126487 126487 1 1582;126488 126488 1 1584;126489 126489 1 1590;"
    ++ "126490 126490 1 1592;126491 126491 1 1594;126492 126492 1 1646;126493 126493 1 1722;"
    ++ "126494 126494 1 1697;126495 126495 1 1647;126497 126497 1 1576;126498 126498 1 1580;"
    ++ "126500 126500 1 1607;126503 126503 1 1581;126505 126505 1 1610;126506 126509 1 1603;"
    ++ "126510 126510 1 1587;126511 126511 1 1593;126512 126512 1 1601;126513 126513 1 1589;"
    ++ "126514 126514 1 1602;126516 126516 1 1588;126517 126518 1 1578;126519 126519 1 1582;"
    ++ "126521 126521 1 1590;126523 126523 1 1594;126530 126530 1 1580;126535 126535 1 1581;"
    ++ "126537 126537 1 1610;126539 126541 2 1604;126542 126542 1 1587;126543 126543 1 1593;"
    ++ "126545 126545 1 1589;126546 126546 1 1602;126548 126548 1 1588;126551 126551 1 1582;"
    ++ "126553 126553 1 1590;126555 126555 1 1594;126557 126557 1 1722;126559 126559 1 1647;"
    ++ "126561 126561 1 1576;126562 126562 1 1580;126564 126564 1 1607;126567 126567 1 1581;"
    ++ "126568 126568 1 1591;126569 126569 1 1610;126570 126572 2 1603;126573 126573 1 1606;"
    ++ "126574 126574 1 1587;126575 126575 1 1593;126576 126576 1 1601;126577 126577 1 1589;"
    ++ "126578 126578 1 1602;126580 126580 1 1588;126581 126582 1 1578;126583 126583 1 1582;"
    ++ "126585 126585 1 1590;126586 126586 1 1592;126587 126587 1 1594;126588 126588 1 1646;"
    ++ "126590 126590 1 1697;126592 126593 1 1575;126594 126594 1 1580;126595 126595 1 1583;"
    ++ "126596 126597 1 1607;126598 126598 1 1586;126599 126599 1 1581;126600 126600 1 1591;"
    ++ "126601 126601 1 1610;126603 126605 1 1604;126606 126606 1 1587;126607 126607 1 1593;"
    ++ "126608 126608 1 1601;126609 126609 1 1589;126610 126610 1 1602;126611 126611 1 1585;"
    ++ "126612 126612 1 1588;126613 126614 1 1578;126615 126615 1 1582;126616 126616 1 1584;"
    ++ "126617 126617 1 1590;126618 126618 1 1592;126619 126619 1 1594;126625 126625 1 1576;"
    ++ "126626 126626 1 1580;126627 126627 1 1583;126629 126629 1 1608;126630 126630 1 1586;"
    ++ "126631 126631 1 1581;126632 126632 1 1591;126633 126633 1 1610;126635 126637 1 1604;"
    ++ "126638 126638 1 1587;126639 126639 1 1593;126640 126640 1 1601;126641 126641 1 1589;"
    ++ "126642 126642 1 1602;126643 126643 1 1585;126644 126644 1 1588;126645 126646 1 1578;"
    ++ "126647 126647 1 1582;126648 126648 1 1584;126649 126649 1 1590;126650 126650 1 1592;"
    ++ "126651 126651 1 1594;127275 127275 1 99;127276 127276 1 114;127280 127305 1 97;"
    ++ "127490 127490 1 12469;127504 127504 1 25163;127505 127505 1 23383;127506 127506 1 21452;"
    ++ "127507 127507 1 12487;127508 127508 1 20108;127509 127509 1 22810;127510 127510 1 35299;"
    ++ "127511 127511 1 22825;127512 127512 1 20132;127513 127513 1 26144;127514 127514 1 28961;"
    ++ "127515 127515 1 26009;127516 127516 1 21069;127517 127517 1 24460;127518 127518 1 20877;"
    ++ "127519 127519 1 26032;127520 127520 1 21021;127521 127521 1 32066;127522 127522 1 29983;"
    ++ "127523 127523 1 36009;127524 127524 1 22768;127525 127525 1 21561;127526 127526 1 28436;"
    ++ "127527 127527 1 25237;127528 127528 1 25429;127529 127529 1 19968;127530 127530 1 19977;"
    ++ "127531 127531 1 36938;127532 127532 1 24038;127533 127533 1 20013;127534 127534 1 21491;"
    ++ "127535 127535 1 25351;127536 127536 1 36208;127537 127537 1 25171;127538 127538 1 31105;"
    ++ "127539 127539 1 31354;127540 127540 1 21512;127541 127541 1 28288;127542 127542 1 26377;"
    ++ "127543 127543 1 26376;127544 127544 1 30003;127545 127545 1 21106;127546 127546 1 21942;"
    ++ "127547 127547 1 37197;127568 127568 1 24471;127569 127569 1 21487;130032 130041 1 48;"
    ++ "194560 194560 1 20029;194561 194561 1 20024;194562 194562 1 20033;194563 194563 1 131362;"
    ++ "194564 194564 1 20320;194565 194565 1 20398;194566 194566 1 20411;194567 194567 1 20482;"
    ++ "194568 194568 1 20602;194569 194569 1 20633;194570 194570 1 20711;194571 194571 1 20687;"
    ++ "194572 194572 1 13470;194573 194573 1 132666;194574 194574 1 20813;194575 194575 1 20820;"
    ++ "194576 194576 1 20836;194577 194577 1 20855;194578 194578 1 132380;194579 194579 1 13497;"
    ++ "194580 194580 1 20839;194581 194581 1 20877;194582 194582 1 132427;194583 194583 1 20887;"
    ++ "194584 194584 1 20900;194585 194585 1 20172;194586 194586 1 20908;194587 194587 1 20917;"
    ++ "194588 194588 1 168415;194589 194589 1 20981;194590 194590 1 20995;194591 194591 1 13535;"
    ++ "194592 194592 1 21051;194593 194593 1 21062;194594 194594 1 21106;194595 194595 1 21111;"
    ++ "194596 194596 1 13589;194597 194597 1 21191;194598 194598 1 21193;194599 194599 1 21220;"
    ++ "194600 194600 1 21242;194601 194602 1 21253;194603 194603 1 21271;194604 194604 1 21321;"
    ++ "194605 194605 1 21329;194606 194606 1 21338;194607 194607 1 21363;194608 194608 1 21373;"
    ++ "194609 194609 1 21375;194610 194610 1 21375;194611 194611 1 21375;194612 194612 1 133676;"
    ++ "194613 194613 1 28784;194614 194614 1 21450;194615 194615 1 21471;194616 194616 1 133987;"
    ++ "194617 194617 1 21483;194618 194618 1 21489;194619 194619 1 21510;194620 194620 1 21662;"
    ++ "194621 194621 1 21560;194622 194622 1 21576;194623 194623 1 21608;194624 194624 1 21666;"
    ++ "194625 194625 1 21750;194626 194626 1 21776;194627 194627 1 21843;194628 194628 1 21859;"
    ++ "194629 194629 1 21892;194630 194630 1 21892;194631 194631 1 21913;194632 194632 1 21931;"
    ++ "194633 194633 1 21939;194634 194634 1 21954;194635 194635 1 22294;194636 194636 1 22022;"
    ++ "194637 194637 1 22295;194638 194638 1 22097;194639 194639 1 22132;194640 194640 1 20999;"
    ++ "194641 194641 1 22766;194642 194642 1 22478;194643 194643 1 22516;194644 194644 1 22541;"
    ++ "194645 194645 1 22411;194646 194646 1 22578;194647 194647 1 22577;194648 194648 1 22700;"
    ++ "194649 194649 1 136420;194650 194650 1 22770;194651 194651 1 22775;194652 194652 1 22790;"
    ++ "194653 194653 1 22810;194654 194654 1 22818;194655 194655 1 22882;194656 194656 1 136872;"
    ++ "194657 194657 1 136938;194658 194658 1 23020;194659 194659 1 23067;194660 194660 1 23079;"
    ++ "194661 194661 1 23000;194662 194662 1 23142;194663 194663 1 14062;194664 194664 1 14076;"
    ++ "194665 194665 1 23304;194666 194666 1 23358;194667 194667 1 23358;194668 194668 1 137672;"
    ++ "194669 194669 1 23491;194670 194670 1 23512;194671 194671 1 23527;194672 194672 1 23539;"
    ++ "194673 194673 1 138008;194674 194674 1 23551;194675 194675 1 23558;194676 194676 1 24403;"
    ++ "194677 194677 1 23586;194678 194678 1 14209;194679 194679 1 23648;194680 194680 1 23662;"
    ++ "194681 194681 1 23744;194682 194682 1 23693;194683 194683 1 138724;194684 194684 1 23875;"
    ++ "194685 194685 1 138726;194686 194686 1 23918;194687 194687 1 23915;194688 194688 1 23932;"
    ++ "194689 194690 1 24033;194691 194691 1 14383;194692 194692 1 24061;194693 194693 1 24104;"
    ++ "194694 194694 1 24125;194695 194695 1 24169;194696 194696 1 14434;194697 194697 1 139651;"
    ++ "194698 194698 1 14460;194699 194699 1 24240;194700 194700 1 24243;194701 194701 1 24246;"
    ++ "194702 194702 1 24266;194703 194703 1 172946;194704 194704 1 24318;194705 194705 1 140081;"
    ++ "194706 194706 1 140081;194707 194707 1 33281;194708 194708 1 24354;194709 194709 1 24354;"
    ++ "194710 194710 1 14535;194711 194711 1 144056;194712 194712 1 156122;194713 194713 1 24418;"
    ++ "194714 194714 1 24427;194715 194715 1 14563;194716 194716 1 24474;194717 194717 1 24525;"
    ++ "194718 194718 1 24535;194719 194719 1 24569;194720 194720 1 24705;194721 194721 1 14650;"
    ++ "194722 194722 1 14620;194723 194723 1 24724;194724 194724 1 141012;194725 194725 1 24775;"
    ++ "194726 194726 1 24904;194727 194727 1 24908;194728 194728 1 24910;194729 194729 1 24908;"
    ++ "194730 194730 1 24954;194731 194731 1 24974;194732 194732 1 25010;194733 194733 1 24996;"
    ++ "194734 194734 1 25007;194735 194735 1 25054;194736 194736 1 25074;194737 194737 1 25078;"
    ++ "194738 194738 1 25104;194739 194739 1 25115;194740 194740 1 25181;194741 194741 1 25265;"
    ++ "194742 194742 1 25300;194743 194743 1 25424;194744 194744 1 142092;194745 194745 1 25405;"
    ++ "194746 194746 1 25340;194747 194747 1 25448;194748 194748 1 25475;194749 194749 1 25572;"
    ++ "194750 194750 1 142321;194751 194751 1 25634;194752 194752 1 25541;194753 194753 1 25513;"
    ++ "194754 194754 1 14894;194755 194755 1 25705;194756 194756 1 25726;194757 194757 1 25757;"
    ++ "194758 194758 1 25719;194759 194759 1 14956;194760 194760 1 25935;194761 194761 1 25964;"
    ++ "194762 194762 1 143370;194763 194763 1 26083;194764 194764 1 26360;194765 194765 1 26185;"
    ++ "194766 194766 1 15129;194767 194767 1 26257;194768 194768 1 15112;194769 194769 1 15076;"
    ++ "194770 194770 1 20882;194771 194771 1 20885;194772 194772 1 26368;194773 194773 1 26268;"
    ++ "194774 194774 1 32941;194775 194775 1 17369;194776 194776 1 26391;194777 194777 1 26395;"
    ++ "194778 194778 1 26401;194779 194779 1 26462;194780 194780 1 26451;194781 194781 1 144323;"
    ++ "194782 194782 1 15177;194783 194783 1 26618;194784 194784 1 26501;194785 194785 1 26706;"
    ++ "194786 194786 1 26757;194787 194787 1 144493;194788 194788 1 26766;194789 194789 1 26655;"
    ++ "194790 194790 1 26900;194791 194791 1 15261;194792 194792 1 26946;194793 194793 1 27043;"
    ++ "194794 194794 1 27114;194795 194795 1 27304;194796 194796 1 145059;194797 194797 1 27355;"
    ++ "194798 194798 1 15384;194799 194799 1 27425;194800 194800 1 145575;194801 194801 1 27476;"
    ++ "194802 194802 1 15438;194803 194803 1 27506;194804 194804 1 27551;194805 194806 1 27578;"
    ++ "194807 194807 1 146061;194808 194808 1 138507;194809 194809 1 146170;194810 194810 1 27726;"
    ++ "194811 194811 1 146620;194812 194812 1 27839;194813 194813 1 27853;194814 194814 1 27751;"
    ++ "194815 194815 1 27926;194816 194816 1 27966;194817 194817 1 28023;194818 194818 1 27969;"
    ++ "194819 194819 1 28009;194820 194820 1 28024;194821 194821 1 28037;194822 194822 1 146718;"
    ++ "194823 194823 1 27956;194824 194824 1 28207;194825 194825 1 28270;194826 194826 1 15667;"
    ++ "194827 194827 1 28363;194828 194828 1 28359;194829 194829 1 147153;194830 194830 1 28153;"
    ++ "194831 194831 1 28526;194832 194832 1 147294;194833 194833 1 147342;194834 194834 1 28614;"
    ++ "194835 194835 1 28729;194836 194836 1 28702;194837 194837 1 28699;194838 194838 1 15766;"
    ++ "194839 194839 1 28746;194840 194840 1 28797;194841 194841 1 28791;194842 194842 1 28845;"
    ++ "194843 194843 1 132389;194844 194844 1 28997;194845 194845 1 148067;194846 194846 1 29084;"
    ++ "194847 194847 1 148395;194848 194848 1 29224;194849 194849 1 29237;194850 194850 1 29264;"
    ++ "194851 194851 1 149000;194852 194852 1 29312;194853 194853 1 29333;194854 194854 1 149301;"
    ++ "194855 194855 1 149524;194856 194856 1 29562;194857 194857 1 29579;194858 194858 1 16044;"
    ++ "194859 194859 1 29605;194860 194860 1 16056;194861 194861 1 16056;194862 194862 1 29767;"
    ++ "194863 194863 1 29788;194864 194864 1 29809;194865 194865 1 29829;194866 194866 1 29898;"
    ++ "194867 194867 1 16155;194868 194868 1 29988;194869 194869 1 150582;194870 194870 1 30014;"
    ++ "194871 194871 1 150674;194872 194872 1 30064;194873 194873 1 139679;194874 194874 1 30224;"
    ++ "194875 194875 1 151457;194876 194876 1 151480;194877 194877 1 151620;194878 194878 1 16380;"
    ++ "194879 194879 1 16392;194880 194880 1 30452;194881 194881 1 151795;194882 194882 1 151794;"
    ++ "194883 194883 1 151833;194884 194884 1 151859;194885 194886 1 30494;194887 194887 1 30495;"
    ++ "194888 194888 1 30538;194889 194889 1 16441;194890 194890 1 30603;194891 194891 1 16454;"
    ++ "194892 194892 1 16534;194893 194893 1 152605;194894 194894 1 30798;194895 194895 1 30860;"
    ++ "194896 194896 1 30924;194897 194897 1 16611;194898 194898 1 153126;194899 194899 1 31062;"
    ++ "194900 194900 1 153242;194901 194901 1 153285;194902 194902 1 31119;194903 194903 1 31211;"
    ++ "194904 194904 1 16687;194905 194905 1 31296;194906 194906 1 31306;194907 194907 1 31311;"
    ++ "194908 194908 1 153980;194909 194909 1 154279;194910 194910 1 154279;194911 194911 1 31470;"
    ++ "194912 194912 1 16898;194913 194913 1 154539;194914 194914 1 31686;194915 194915 1 31689;"
    ++ "194916 194916 1 16935;194917 194917 1 154752;194918 194918 1 31954;194919 194919 1 17056;"
    ++ "194920 194920 1 31976;194921 194921 1 31971;194922 194922 1 32000;194923 194923 1 155526;"
    ++ "194924 194924 1 32099;194925 194925 1 17153;194926 194926 1 32199;194927 194927 1 32258;"
    ++ "194928 194928 1 32325;194929 194929 1 17204;194930 194930 1 156200;194931 194931 1 156231;"
    ++ "194932 194932 1 17241;194933 194933 1 156377;194934 194934 1 32634;194935 194935 1 156478;"
    ++ "194936 194936 1 32661;194937 194937 1 32762;194938 194938 1 32773;194939 194939 1 156890;"
    ++ "194940 194940 1 156963;194941 194941 1 32864;194942 194942 1 157096;194943 194943 1 32880;"
    ++ "194944 194944 1 144223;194945 194945 1 17365;194946 194946 1 32946;194947 194947 1 33027;"
    ++ "194948 194948 1 17419;194949 194949 1 33086;194950 194950 1 23221;194951 194951 1 157607;"
    ++ "194952 194952 1 157621;194953 194953 1 144275;194954 194954 1 144284;194955 194955 1 33281;"
    ++ "194956 194956 1 33284;194957 194957 1 36766;194958 194958 1 17515;194959 194959 1 33425;"
    ++ "194960 194960 1 33419;194961 194961 1 33437;194962 194962 1 21171;194963 194963 1 33457;"
    ++ "194964 194964 1 33459;194965 194965 1 33469;194966 194966 1 33510;194967 194967 1 158524;"
    ++ "194968 194968 1 33509;194969 194969 1 33565;194970 194970 1 33635;194971 194971 1 33709;"
    ++ "194972 194972 1 33571;194973 194973 1 33725;194974 194974 1 33767;194975 194975 1 33879;"
    ++ "194976 194976 1 33619;194977 194977 1 33738;194978 194978 1 33740;194979 194979 1 33756;"
    ++ "194980 194980 1 158774;194981 194981 1 159083;194982 194982 1 158933;194983 194983 1 17707;"
    ++ "194984 194984 1 34033;194985 194985 1 34035;194986 194986 1 34070;194987 194987 1 160714;"
    ++ "194988 194988 1 34148;194989 194989 1 159532;194990 194990 1 17757;194991 194991 1 17761;"
    ++ "194992 194992 1 159665;194993 194993 1 159954;194994 194994 1 17771;194995 194995 1 34384;"
    ++ "194996 194996 1 34396;194997 194997 1 34407;194998 194998 1 34409;194999 194999 1 34473;"
    ++ "195000 195000 1 34440;195001 195001 1 34574;195002 195002 1 34530;195003 195003 1 34681;"
    ++ "195004 195004 1 34600;195005 195005 1 34667;195006 195006 1 34694;195007 195007 1 17879;"
    ++ "195008 195008 1 34785;195009 195009 1 34817;195010 195010 1 17913;195011 195011 1 34912;"
    ++ "195012 195012 1 34915;195013 195013 1 161383;195014 195014 1 35031;195015 195015 1 35038;"
    ++ "195016 195016 1 17973;195017 195017 1 35066;195018 195018 1 13499;195019 195019 1 161966;"
    ++ "195020 195020 1 162150;195021 195021 1 18110;195022 195022 1 18119;195023 195023 1 35488;"
    ++ "195024 195024 1 35565;195025 195025 1 35722;195026 195026 1 35925;195027 195027 1 162984;"
    ++ "195028 195028 1 36011;195029 195029 1 36033;195030 195030 1 36123;195031 195031 1 36215;"
    ++ "195032 195032 1 163631;195033 195033 1 133124;195034 195034 1 36299;195035 195035 1 36284;"
    ++ "195036 195036 1 36336;195037 195037 1 133342;195038 195038 1 36564;195039 195039 1 36664;"
    ++ "195040 195040 1 165330;195041 195041 1 165357;195042 195042 1 37012;195043 195043 1 37105;"
    ++ "195044 195044 1 37137;195045 195045 1 165678;195046 195046 1 37147;195047 195047 1 37432;"
    ++ "195048 195049 1 37591;195050 195050 1 37500;195051 195051 1 37881;195052 195052 1 37909;"
    ++ "195053 195053 1 166906;195054 195054 1 38283;195055 195055 1 18837;195056 195056 1 38327;"
    ++ "195057 195057 1 167287;195058 195058 1 18918;195059 195059 1 38595;195060 195060 1 23986;"
    ++ "195061 195061 1 38691;195062 195062 1 168261;195063 195063 1 168474;195064 195064 1 19054;"
    ++ "195065 195065 1 19062;195066 195066 1 38880;195067 195067 1 168970;195068 195068 1 19122;"
    ++ "195069 195069 1 169110;195070 195070 1 38923;195071 195071 1 38923;195072 195072 1 38953;"
    ++ "195073 195073 1 169398;195074 195074 1 39138;195075 195075 1 19251;195076 195076 1 39209;"
    ++ "195077 195077 1 39335;195078 195078 1 39362;195079 195079 1 39422;195080 195080 1 19406;"
    ++ "195081 195081 1 170800;195082 195082 1 39698;195083 195083 1 40000;195084 195084 1 40189;"
    ++ "195085 195085 1 19662;195086 195086 1 19693;195087 195087 1 40295;195088 195088 1 172238;"
    ++ "195089 195089 1 19704;195090 195090 1 172293;195091 195091 1 172558;195092 195092 1 172689;"
    ++ "195093 195093 1 40635;195094 195094 1 19798;195095 195095 1 40697;195096 195096 1 40702;"
    ++ "195097 195097 1 40709;195098 195098 1 40719;195099 195099 1 40726;195100 195100 1 40763;"
    ++ "195101 195101 1 173568"

/-- Characters that become several others or none, each with those. -/
def sequencesText : String :=
    "168 32 776;173;175 32 772;180 32 769;184 32 807;188 49 8260 52;189 49 8260 50;"
    ++ "190 51 8260 52;304 105 775;306 105 106;307 105 106;319 108 183;320 108 183;329 700 110;"
    ++ "452 100 382;453 100 382;454 100 382;455 108 106;456 108 106;457 108 106;458 110 106;"
    ++ "459 110 106;460 110 106;497 100 122;498 100 122;499 100 122;728 32 774;729 32 775;"
    ++ "730 32 778;731 32 808;732 32 771;733 32 779;836 776 769;847;890 32 953;900 32 769;"
    ++ "901 32 776 769;1415 1381 1410;1564;1653 1575 1652;1654 1608 1652;1655 1735 1652;"
    ++ "1656 1610 1652;2392 2325 2364;2393 2326 2364;2394 2327 2364;2395 2332 2364;2396 2337 2364;"
    ++ "2397 2338 2364;2398 2347 2364;2399 2351 2364;2524 2465 2492;2525 2466 2492;2527 2479 2492;"
    ++ "2611 2610 2620;2614 2616 2620;2649 2582 2620;2650 2583 2620;2651 2588 2620;2654 2603 2620;"
    ++ "2908 2849 2876;2909 2850 2876;3635 3661 3634;3763 3789 3762;3804 3755 3737;3805 3755 3745;"
    ++ "3907 3906 4023;3917 3916 4023;3922 3921 4023;3927 3926 4023;3932 3931 4023;3945 3904 4021;"
    ++ "3955 3953 3954;3957 3953 3956;3958 4018 3968;3959 4018 3953 3968;3960 4019 3968;"
    ++ "3961 4019 3953 3968;3969 3953 3968;3987 3986 4023;3997 3996 4023;4002 4001 4023;"
    ++ "4007 4006 4023;4012 4011 4023;4025 3984 4021;4447;4448;6068;6069;6155;6156;6157;6158;6159;"
    ++ "7834 97 702;8064 7936 953;8065 7937 953;8066 7938 953;8067 7939 953;8068 7940 953;"
    ++ "8069 7941 953;8070 7942 953;8071 7943 953;8072 7936 953;8073 7937 953;8074 7938 953;"
    ++ "8075 7939 953;8076 7940 953;8077 7941 953;8078 7942 953;8079 7943 953;8080 7968 953;"
    ++ "8081 7969 953;8082 7970 953;8083 7971 953;8084 7972 953;8085 7973 953;8086 7974 953;"
    ++ "8087 7975 953;8088 7968 953;8089 7969 953;8090 7970 953;8091 7971 953;8092 7972 953;"
    ++ "8093 7973 953;8094 7974 953;8095 7975 953;8096 8032 953;8097 8033 953;8098 8034 953;"
    ++ "8099 8035 953;8100 8036 953;8101 8037 953;8102 8038 953;8103 8039 953;8104 8032 953;"
    ++ "8105 8033 953;8106 8034 953;8107 8035 953;8108 8036 953;8109 8037 953;8110 8038 953;"
    ++ "8111 8039 953;8114 8048 953;8115 945 953;8116 940 953;8119 8118 953;8124 945 953;"
    ++ "8125 32 787;8127 32 787;8128 32 834;8129 32 776 834;8130 8052 953;8131 951 953;8132 942 953;"
    ++ "8135 8134 953;8140 951 953;8141 32 787 768;8142 32 787 769;8143 32 787 834;8157 32 788 768;"
    ++ "8158 32 788 769;8159 32 788 834;8173 32 776 768;8174 32 776 769;8178 8060 953;8179 969 953;"
    ++ "8180 974 953;8183 8182 953;8188 969 953;8189 32 769;8190 32 788;8203;8204;8205;8206;8207;"
    ++ "8215 32 819;8234;8235;8236;8237;8238;8243 8242 8242;8244 8242 8242 8242;8246 8245 8245;"
    ++ "8247 8245 8245 8245;8252 33 33;8254 32 773;8263 63 63;8264 63 33;8265 33 63;"
    ++ "8279 8242 8242 8242 8242;8288;8289;8290;8291;8292;8294;8295;8296;8297;8298;8299;8300;8301;"
    ++ "8302;8303;8360 114 115;8448 97 47 99;8449 97 47 115;8451 176 99;8453 99 47 111;"
    ++ "8454 99 47 117;8457 176 102;8470 110 111;8480 115 109;8481 116 101 108;8482 116 109;"
    ++ "8507 102 97 120;8528 49 8260 55;8529 49 8260 57;8530 49 8260 49 48;8531 49 8260 51;"
    ++ "8532 50 8260 51;8533 49 8260 53;8534 50 8260 53;8535 51 8260 53;8536 52 8260 53;"
    ++ "8537 49 8260 54;8538 53 8260 54;8539 49 8260 56;8540 51 8260 56;8541 53 8260 56;"
    ++ "8542 55 8260 56;8543 49 8260;8545 105 105;8546 105 105 105;8547 105 118;8549 118 105;"
    ++ "8550 118 105 105;8551 118 105 105 105;8552 105 120;8554 120 105;8555 120 105 105;"
    ++ "8561 105 105;8562 105 105 105;8563 105 118;8565 118 105;8566 118 105 105;"
    ++ "8567 118 105 105 105;8568 105 120;8570 120 105;8571 120 105 105;8585 48 8260 51;"
    ++ "8748 8747 8747;8749 8747 8747 8747;8751 8750 8750;8752 8750 8750 8750;9321 49 48;9322 49 49;"
    ++ "9323 49 50;9324 49 51;9325 49 52;9326 49 53;9327 49 54;9328 49 55;9329 49 56;9330 49 57;"
    ++ "9331 50 48;9332 40 49 41;9333 40 50 41;9334 40 51 41;9335 40 52 41;9336 40 53 41;"
    ++ "9337 40 54 41;9338 40 55 41;9339 40 56 41;9340 40 57 41;9341 40 49 48 41;9342 40 49 49 41;"
    ++ "9343 40 49 50 41;9344 40 49 51 41;9345 40 49 52 41;9346 40 49 53 41;9347 40 49 54 41;"
    ++ "9348 40 49 55 41;9349 40 49 56 41;9350 40 49 57 41;9351 40 50 48 41;9372 40 97 41;"
    ++ "9373 40 98 41;9374 40 99 41;9375 40 100 41;9376 40 101 41;9377 40 102 41;9378 40 103 41;"
    ++ "9379 40 104 41;9380 40 105 41;9381 40 106 41;9382 40 107 41;9383 40 108 41;9384 40 109 41;"
    ++ "9385 40 110 41;9386 40 111 41;9387 40 112 41;9388 40 113 41;9389 40 114 41;9390 40 115 41;"
    ++ "9391 40 116 41;9392 40 117 41;9393 40 118 41;9394 40 119 41;9395 40 120 41;9396 40 121 41;"
    ++ "9397 40 122 41;10764 8747 8747 8747 8747;10868 58 58 61;10869 61 61;10870 61 61 61;"
    ++ "10972 10973 824;12443 32 12441;12444 32 12442;12447 12424 12426;12543 12467 12488;12644;"
    ++ "12800 40 4352 41;12801 40 4354 41;12802 40 4355 41;12803 40 4357 41;12804 40 4358 41;"
    ++ "12805 40 4359 41;12806 40 4361 41;12807 40 4363 41;12808 40 4364 41;12809 40 4366 41;"
    ++ "12810 40 4367 41;12811 40 4368 41;12812 40 4369 41;12813 40 4370 41;12814 40 44032 41;"
    ++ "12815 40 45208 41;12816 40 45796 41;12817 40 46972 41;12818 40 47560 41;12819 40 48148 41;"
    ++ "12820 40 49324 41;12821 40 50500 41;12822 40 51088 41;12823 40 52264 41;12824 40 52852 41;"
    ++ "12825 40 53440 41;12826 40 54028 41;12827 40 54616 41;12828 40 51452 41;"
    ++ "12829 40 50724 51204 41;12830 40 50724 54980 41;12832 40 19968 41;12833 40 20108 41;"
    ++ "12834 40 19977 41;12835 40 22235 41;12836 40 20116 41;12837 40 20845 41;12838 40 19971 41;"
    ++ "12839 40 20843 41;12840 40 20061 41;12841 40 21313 41;12842 40 26376 41;12843 40 28779 41;"
    ++ "12844 40 27700 41;12845 40 26408 41;12846 40 37329 41;12847 40 22303 41;12848 40 26085 41;"
    ++ "12849 40 26666 41;12850 40 26377 41;12851 40 31038 41;12852 40 21517 41;12853 40 29305 41;"
    ++ "12854 40 36001 41;12855 40 31069 41;12856 40 21172 41;12857 40 20195 41;12858 40 21628 41;"
    ++ "12859 40 23398 41;12860 40 30435 41;12861 40 20225 41;12862 40 36039 41;12863 40 21332 41;"
    ++ "12864 40 31085 41;12865 40 20241 41;12866 40 33258 41;12867 40 33267 41;12880 112 116 101;"
    ++ "12881 50 49;12882 50 50;12883 50 51;12884 50 52;12885 50 53;12886 50 54;12887 50 55;"
    ++ "12888 50 56;12889 50 57;12890 51 48;12891 51 49;12892 51 50;12893 51 51;12894 51 52;"
    ++ "12895 51 53;12924 52280 44256;12925 51452 51032;12977 51 54;12978 51 55;12979 51 56;"
    ++ "12980 51 57;12981 52 48;12982 52 49;12983 52 50;12984 52 51;12985 52 52;12986 52 53;"
    ++ "12987 52 54;12988 52 55;12989 52 56;12990 52 57;12991 53 48;12992 49 26376;12993 50 26376;"
    ++ "12994 51 26376;12995 52 26376;12996 53 26376;12997 54 26376;12998 55 26376;12999 56 26376;"
    ++ "13000 57 26376;13001 49 48 26376;13002 49 49 26376;13003 49 50 26376;13004 104 103;"
    ++ "13005 101 114 103;13006 101 118;13007 108 116 100;13055 20196 21644;"
    ++ "13056 12450 12497 12540 12488;13057 12450 12523 12501 12449;13058 12450 12531 12506 12450;"
    ++ "13059 12450 12540 12523;13060 12452 12491 12531 12464;13061 12452 12531 12481;"
    ++ "13062 12454 12457 12531;13063 12456 12473 12463 12540 12489;13064 12456 12540 12459 12540;"
    ++ "13065 12458 12531 12473;13066 12458 12540 12512;13067 12459 12452 12522;"
    ++ "13068 12459 12521 12483 12488;13069 12459 12525 12522 12540;13070 12460 12525 12531;"
    ++ "13071 12460 12531 12510;13072 12462 12460;13073 12462 12491 12540;"
    ++ "13074 12461 12517 12522 12540;13075 12462 12523 12480 12540;13076 12461 12525;"
    ++ "13077 12461 12525 12464 12521 12512;13078 12461 12525 12513 12540 12488 12523;"
    ++ "13079 12461 12525 12527 12483 12488;13080 12464 12521 12512;"
    ++ "13081 12464 12521 12512 12488 12531;13082 12463 12523 12476 12452 12525;"
    ++ "13083 12463 12525 12540 12493;13084 12465 12540 12473;13085 12467 12523 12490;"
    ++ "13086 12467 12540 12509;13087 12469 12452 12463 12523;13088 12469 12531 12481 12540 12512;"
    ++ "13089 12471 12522 12531 12464;13090 12475 12531 12481;13091 12475 12531 12488;"
    ++ "13092 12480 12540 12473;13093 12487 12471;13094 12489 12523;13095 12488 12531;"
    ++ "13096 12490 12494;13097 12494 12483 12488;13098 12495 12452 12484;"
    ++ "13099 12497 12540 12475 12531 12488;13100 12497 12540 12484;13101 12496 12540 12524 12523;"
    ++ "13102 12500 12450 12473 12488 12523;13103 12500 12463 12523;13104 12500 12467;"
    ++ "13105 12499 12523;13106 12501 12449 12521 12483 12489;13107 12501 12451 12540 12488;"
    ++ "13108 12502 12483 12471 12455 12523;13109 12501 12521 12531;"
    ++ "13110 12504 12463 12479 12540 12523;13111 12506 12477;13112 12506 12491 12498;"
    ++ "13113 12504 12523 12484;13114 12506 12531 12473;13115 12506 12540 12472;"
    ++ "13116 12505 12540 12479;13117 12509 12452 12531 12488;13118 12508 12523 12488;"
    ++ "13119 12507 12531;13120 12509 12531 12489;13121 12507 12540 12523;13122 12507 12540 12531;"
    ++ "13123 12510 12452 12463 12525;13124 12510 12452 12523;13125 12510 12483 12495;"
    ++ "13126 12510 12523 12463;13127 12510 12531 12471 12519 12531;13128 12511 12463 12525 12531;"
    ++ "13129 12511 12522;13130 12511 12522 12496 12540 12523;13131 12513 12460;"
    ++ "13132 12513 12460 12488 12531;13133 12513 12540 12488 12523;13134 12516 12540 12489;"
    ++ "13135 12516 12540 12523;13136 12518 12450 12531;13137 12522 12483 12488 12523;"
    ++ "13138 12522 12521;13139 12523 12500 12540;13140 12523 12540 12502 12523;13141 12524 12512;"
    ++ "13142 12524 12531 12488 12466 12531;13143 12527 12483 12488;13144 48 28857;13145 49 28857;"
    ++ "13146 50 28857;13147 51 28857;13148 52 28857;13149 53 28857;13150 54 28857;13151 55 28857;"
    ++ "13152 56 28857;13153 57 28857;13154 49 48 28857;13155 49 49 28857;13156 49 50 28857;"
    ++ "13157 49 51 28857;13158 49 52 28857;13159 49 53 28857;13160 49 54 28857;13161 49 55 28857;"
    ++ "13162 49 56 28857;13163 49 57 28857;13164 50 48 28857;13165 50 49 28857;13166 50 50 28857;"
    ++ "13167 50 51 28857;13168 50 52 28857;13169 104 112 97;13170 100 97;13171 97 117;"
    ++ "13172 98 97 114;13173 111 118;13174 112 99;13175 100 109;13176 100 109 50;13177 100 109 51;"
    ++ "13178 105 117;13179 24179 25104;13180 26157 21644;13181 22823 27491;13182 26126 27835;"
    ++ "13183 26666 24335 20250 31038;13184 112 97;13185 110 97;13186 956 97;13187 109 97;"
    ++ "13188 107 97;13189 107 98;13190 109 98;13191 103 98;13192 99 97 108;13193 107 99 97 108;"
    ++ "13194 112 102;13195 110 102;13196 956 102;13197 956 103;13198 109 103;13199 107 103;"
    ++ "13200 104 122;13201 107 104 122;13202 109 104 122;13203 103 104 122;13204 116 104 122;"
    ++ "13205 956 108;13206 109 108;13207 100 108;13208 107 108;13209 102 109;13210 110 109;"
    ++ "13211 956 109;13212 109 109;13213 99 109;13214 107 109;13215 109 109 50;13216 99 109 50;"
    ++ "13217 109 50;13218 107 109 50;13219 109 109 51;13220 99 109 51;13221 109 51;"
    ++ "13222 107 109 51;13223 109 8725 115;13224 109 8725 115 50;13225 112 97;13226 107 112 97;"
    ++ "13227 109 112 97;13228 103 112 97;13229 114 97 100;13230 114 97 100 8725 115;"
    ++ "13231 114 97 100 8725 115 50;13232 112 115;13233 110 115;13234 956 115;13235 109 115;"
    ++ "13236 112 118;13237 110 118;13238 956 118;13239 109 118;13240 107 118;13241 109 118;"
    ++ "13242 112 119;13243 110 119;13244 956 119;13245 109 119;13246 107 119;13247 109 119;"
    ++ "13248 107 969;13249 109 969;13251 98 113;13252 99 99;13253 99 100;13254 99 8725 107 103;"
    ++ "13256 100 98;13257 103 121;13258 104 97;13259 104 112;13260 105 110;13261 107 107;"
    ++ "13262 107 109;13263 107 116;13264 108 109;13265 108 110;13266 108 111 103;13267 108 120;"
    ++ "13268 109 98;13269 109 105 108;13270 109 111 108;13271 112 104;13273 112 112 109;"
    ++ "13274 112 114;13275 115 114;13276 115 118;13277 119 98;13278 118 8725 109;13279 97 8725 109;"
    ++ "13280 49 26085;13281 50 26085;13282 51 26085;13283 52 26085;13284 53 26085;13285 54 26085;"
    ++ "13286 55 26085;13287 56 26085;13288 57 26085;13289 49 48 26085;13290 49 49 26085;"
    ++ "13291 49 50 26085;13292 49 51 26085;13293 49 52 26085;13294 49 53 26085;13295 49 54 26085;"
    ++ "13296 49 55 26085;13297 49 56 26085;13298 49 57 26085;13299 50 48 26085;13300 50 49 26085;"
    ++ "13301 50 50 26085;13302 50 51 26085;13303 50 52 26085;13304 50 53 26085;13305 50 54 26085;"
    ++ "13306 50 55 26085;13307 50 56 26085;13308 50 57 26085;13309 51 48 26085;13310 51 49 26085;"
    ++ "13311 103 97 108;64256 102 102;64257 102 105;64258 102 108;64259 102 102 105;"
    ++ "64260 102 102 108;64261 115 116;64262 115 116;64275 1396 1398;64276 1396 1381;"
    ++ "64277 1396 1387;64278 1406 1398;64279 1396 1389;64285 1497 1460;64287 1522 1463;"
    ++ "64298 1513 1473;64299 1513 1474;64300 1513 1468 1473;64301 1513 1468 1474;64302 1488 1463;"
    ++ "64303 1488 1464;64304 1488 1468;64305 1489 1468;64306 1490 1468;64307 1491 1468;"
    ++ "64308 1492 1468;64309 1493 1468;64310 1494 1468;64312 1496 1468;64313 1497 1468;"
    ++ "64314 1498 1468;64315 1499 1468;64316 1500 1468;64318 1502 1468;64320 1504 1468;"
    ++ "64321 1505 1468;64323 1507 1468;64324 1508 1468;64326 1510 1468;64327 1511 1468;"
    ++ "64328 1512 1468;64329 1513 1468;64330 1514 1468;64331 1493 1465;64332 1489 1471;"
    ++ "64333 1499 1471;64334 1508 1471;64335 1488 1500;64477 1735 1652;64490 1574 1575;"
    ++ "64491 1574 1575;64492 1574 1749;64493 1574 1749;64494 1574 1608;64495 1574 1608;"
    ++ "64496 1574 1735;64497 1574 1735;64498 1574 1734;64499 1574 1734;64500 1574 1736;"
    ++ "64501 1574 1736;64502 1574 1744;64503 1574 1744;64504 1574 1744;64505 1574 1609;"
    ++ "64506 1574 1609;64507 1574 1609;64512 1574 1580;64513 1574 1581;64514 1574 1605;"
    ++ "64515 1574 1609;64516 1574 1610;64517 1576 1580;64518 1576 1581;64519 1576 1582;"
    ++ "64520 1576 1605;64521 1576 1609;64522 1576 1610;64523 1578 1580;64524 1578 1581;"
    ++ "64525 1578 1582;64526 1578 1605;64527 1578 1609;64528 1578 1610;64529 1579 1580;"
    ++ "64530 1579 1605;64531 1579 1609;64532 1579 1610;64533 1580 1581;64534 1580 1605;"
    ++ "64535 1581 1580;64536 1581 1605;64537 1582 1580;64538 1582 1581;64539 1582 1605;"
    ++ "64540 1587 1580;64541 1587 1581;64542 1587 1582;64543 1587 1605;64544 1589 1581;"
    ++ "64545 1589 1605;64546 1590 1580;64547 1590 1581;64548 1590 1582;64549 1590 1605;"
    ++ "64550 1591 1581;64551 1591 1605;64552 1592 1605;64553 1593 1580;64554 1593 1605;"
    ++ "64555 1594 1580;64556 1594 1605;64557 1601 1580;64558 1601 1581;64559 1601 1582;"
    ++ "64560 1601 1605;64561 1601 1609;64562 1601 1610;64563 1602 1581;64564 1602 1605;"
    ++ "64565 1602 1609;64566 1602 1610;64567 1603 1575;64568 1603 1580;64569 1603 1581;"
    ++ "64570 1603 1582;64571 1603 1604;64572 1603 1605;64573 1603 1609;64574 1603 1610;"
    ++ "64575 1604 1580;64576 1604 1581;64577 1604 1582;64578 1604 1605;64579 1604 1609;"
    ++ "64580 1604 1610;64581 1605 1580;64582 1605 1581;64583 1605 1582;64584 1605 1605;"
    ++ "64585 1605 1609;64586 1605 1610;64587 1606 1580;64588 1606 1581;64589 1606 1582;"
    ++ "64590 1606 1605;64591 1606 1609;64592 1606 1610;64593 1607 1580;64594 1607 1605;"
    ++ "64595 1607 1609;64596 1607 1610;64597 1610 1580;64598 1610 1581;64599 1610 1582;"
    ++ "64600 1610 1605;64601 1610 1609;64602 1610 1610;64603 1584 1648;64604 1585 1648;"
    ++ "64605 1609 1648;64606 32 1612 1617;64607 32 1613 1617;64608 32 1614 1617;64609 32 1615 1617;"
    ++ "64610 32 1616 1617;64611 32 1617 1648;64612 1574 1585;64613 1574 1586;64614 1574 1605;"
    ++ "64615 1574 1606;64616 1574 1609;64617 1574 1610;64618 1576 1585;64619 1576 1586;"
    ++ "64620 1576 1605;64621 1576 1606;64622 1576 1609;64623 1576 1610;64624 1578 1585;"
    ++ "64625 1578 1586;64626 1578 1605;64627 1578 1606;64628 1578 1609;64629 1578 1610;"
    ++ "64630 1579 1585;64631 1579 1586;64632 1579 1605;64633 1579 1606;64634 1579 1609;"
    ++ "64635 1579 1610;64636 1601 1609;64637 1601 1610;64638 1602 1609;64639 1602 1610;"
    ++ "64640 1603 1575;64641 1603 1604;64642 1603 1605;64643 1603 1609;64644 1603 1610;"
    ++ "64645 1604 1605;64646 1604 1609;64647 1604 1610;64648 1605 1575;64649 1605 1605;"
    ++ "64650 1606 1585;64651 1606 1586;64652 1606 1605;64653 1606 1606;64654 1606 1609;"
    ++ "64655 1606 1610;64656 1609 1648;64657 1610 1585;64658 1610 1586;64659 1610 1605;"
    ++ "64660 1610 1606;64661 1610 1609;64662 1610 1610;64663 1574 1580;64664 1574 1581;"
    ++ "64665 1574 1582;64666 1574 1605;64667 1574 1607;64668 1576 1580;64669 1576 1581;"
    ++ "64670 1576 1582;64671 1576 1605;64672 1576 1607;64673 1578 1580;64674 1578 1581;"
    ++ "64675 1578 1582;64676 1578 1605;64677 1578 1607;64678 1579 1605;64679 1580 1581;"
    ++ "64680 1580 1605;64681 1581 1580;64682 1581 1605;64683 1582 1580;64684 1582 1605;"
    ++ "64685 1587 1580;64686 1587 1581;64687 1587 1582;64688 1587 1605;64689 1589 1581;"
    ++ "64690 1589 1582;64691 1589 1605;64692 1590 1580;64693 1590 1581;64694 1590 1582;"
    ++ "64695 1590 1605;64696 1591 1581;64697 1592 1605;64698 1593 1580;64699 1593 1605;"
    ++ "64700 1594 1580;64701 1594 1605;64702 1601 1580;64703 1601 1581;64704 1601 1582;"
    ++ "64705 1601 1605;64706 1602 1581;64707 1602 1605;64708 1603 1580;64709 1603 1581;"
    ++ "64710 1603 1582;64711 1603 1604;64712 1603 1605;64713 1604 1580;64714 1604 1581;"
    ++ "64715 1604 1582;64716 1604 1605;64717 1604 1607;64718 1605 1580;64719 1605 1581;"
    ++ "64720 1605 1582;64721 1605 1605;64722 1606 1580;64723 1606 1581;64724 1606 1582;"
    ++ "64725 1606 1605;64726 1606 1607;64727 1607 1580;64728 1607 1605;64729 1607 1648;"
    ++ "64730 1610 1580;64731 1610 1581;64732 1610 1582;64733 1610 1605;64734 1610 1607;"
    ++ "64735 1574 1605;64736 1574 1607;64737 1576 1605;64738 1576 1607;64739 1578 1605;"
    ++ "64740 1578 1607;64741 1579 1605;64742 1579 1607;64743 1587 1605;64744 1587 1607;"
    ++ "64745 1588 1605;64746 1588 1607;64747 1603 1604;64748 1603 1605;64749 1604 1605;"
    ++ "64750 1606 1605;64751 1606 1607;64752 1610 1605;64753 1610 1607;64754 1600 1614 1617;"
    ++ "64755 1600 1615 1617;64756 1600 1616 1617;64757 1591 1609;64758 1591 1610;64759 1593 1609;"
    ++ "64760 1593 1610;64761 1594 1609;64762 1594 1610;64763 1587 1609;64764 1587 1610;"
    ++ "64765 1588 1609;64766 1588 1610;64767 1581 1609;64768 1581 1610;64769 1580 1609;"
    ++ "64770 1580 1610;64771 1582 1609;64772 1582 1610;64773 1589 1609;64774 1589 1610;"
    ++ "64775 1590 1609;64776 1590 1610;64777 1588 1580;64778 1588 1581;64779 1588 1582;"
    ++ "64780 1588 1605;64781 1588 1585;64782 1587 1585;64783 1589 1585;64784 1590 1585;"
    ++ "64785 1591 1609;64786 1591 1610;64787 1593 1609;64788 1593 1610;64789 1594 1609;"
    ++ "64790 1594 1610;64791 1587 1609;64792 1587 1610;64793 1588 1609;64794 1588 1610;"
    ++ "64795 1581 1609;64796 1581 1610;64797 1580 1609;64798 1580 1610;64799 1582 1609;"
    ++ "64800 1582 1610;64801 1589 1609;64802 1589 1610;64803 1590 1609;64804 1590 1610;"
    ++ "64805 1588 1580;64806 1588 1581;64807 1588 1582;64808 1588 1605;64809 1588 1585;"
    ++ "64810 1587 1585;64811 1589 1585;64812 1590 1585;64813 1588 1580;64814 1588 1581;"
    ++ "64815 1588 1582;64816 1588 1605;64817 1587 1607;64818 1588 1607;64819 1591 1605;"
    ++ "64820 1587 1580;64821 1587 1581;64822 1587 1582;64823 1588 1580;64824 1588 1581;"
    ++ "64825 1588 1582;64826 1591 1605;64827 1592 1605;64828 1575 1611;64829 1575 1611;"
    ++ "64848 1578 1580 1605;64849 1578 1581 1580;64850 1578 1581 1580;64851 1578 1581 1605;"
    ++ "64852 1578 1582 1605;64853 1578 1605 1580;64854 1578 1605 1581;64855 1578 1605 1582;"
    ++ "64856 1580 1605 1581;64857 1580 1605 1581;64858 1581 1605 1610;64859 1581 1605 1609;"
    ++ "64860 1587 1581 1580;64861 1587 1580 1581;64862 1587 1580 1609;64863 1587 1605 1581;"
    ++ "64864 1587 1605 1581;64865 1587 1605 1580;64866 1587 1605 1605;64867 1587 1605 1605;"
    ++ "64868 1589 1581 1581;64869 1589 1581 1581;64870 1589 1605 1605;64871 1588 1581 1605;"
    ++ "64872 1588 1581 1605;64873 1588 1580 1610;64874 1588 1605 1582;64875 1588 1605 1582;"
    ++ "64876 1588 1605 1605;64877 1588 1605 1605;64878 1590 1581 1609;64879 1590 1582 1605;"
    ++ "64880 1590 1582 1605;64881 1591 1605 1581;64882 1591 1605 1581;64883 1591 1605 1605;"
    ++ "64884 1591 1605 1610;64885 1593 1580 1605;64886 1593 1605 1605;64887 1593 1605 1605;"
    ++ "64888 1593 1605 1609;64889 1594 1605 1605;64890 1594 1605 1610;64891 1594 1605 1609;"
    ++ "64892 1601 1582 1605;64893 1601 1582 1605;64894 1602 1605 1581;64895 1602 1605 1605;"
    ++ "64896 1604 1581 1605;64897 1604 1581 1610;64898 1604 1581 1609;64899 1604 1580 1580;"
    ++ "64900 1604 1580 1580;64901 1604 1582 1605;64902 1604 1582 1605;64903 1604 1605 1581;"
    ++ "64904 1604 1605 1581;64905 1605 1581 1580;64906 1605 1581 1605;64907 1605 1581 1610;"
    ++ "64908 1605 1580 1581;64909 1605 1580 1605;64910 1605 1582 1580;64911 1605 1582 1605;"
    ++ "64914 1605 1580 1582;64915 1607 1605 1580;64916 1607 1605 1605;64917 1606 1581 1605;"
    ++ "64918 1606 1581 1609;64919 1606 1580 1605;64920 1606 1580 1605;64921 1606 1580 1609;"
    ++ "64922 1606 1605 1610;64923 1606 1605 1609;64924 1610 1605 1605;64925 1610 1605 1605;"
    ++ "64926 1576 1582 1610;64927 1578 1580 1610;64928 1578 1580 1609;64929 1578 1582 1610;"
    ++ "64930 1578 1582 1609;64931 1578 1605 1610;64932 1578 1605 1609;64933 1580 1605 1610;"
    ++ "64934 1580 1581 1609;64935 1580 1605 1609;64936 1587 1582 1609;64937 1589 1581 1610;"
    ++ "64938 1588 1581 1610;64939 1590 1581 1610;64940 1604 1580 1610;64941 1604 1605 1610;"
    ++ "64942 1610 1581 1610;64943 1610 1580 1610;64944 1610 1605 1610;64945 1605 1605 1610;"
    ++ "64946 1602 1605 1610;64947 1606 1581 1610;64948 1602 1605 1581;64949 1604 1581 1605;"
    ++ "64950 1593 1605 1610;64951 1603 1605 1610;64952 1606 1580 1581;64953 1605 1582 1610;"
    ++ "64954 1604 1580 1605;64955 1603 1605 1605;64956 1604 1580 1605;64957 1606 1580 1581;"
    ++ "64958 1580 1581 1610;64959 1581 1580 1610;64960 1605 1580 1610;64961 1601 1605 1610;"
    ++ "64962 1576 1581 1610;64963 1603 1605 1605;64964 1593 1580 1605;64965 1589 1605 1605;"
    ++ "64966 1587 1582 1610;64967 1606 1580 1610;65008 1589 1604 1746;65009 1602 1604 1746;"
    ++ "65010 1575 1604 1604 1607;65011 1575 1603 1576 1585;65012 1605 1581 1605 1583;"
    ++ "65013 1589 1604 1593 1605;65014 1585 1587 1608 1604;65015 1593 1604 1610 1607;"
    ++ "65016 1608 1587 1604 1605;65017 1589 1604 1609;"
    ++ "65018 1589 1604 1609 32 1575 1604 1604 1607 32 1593 1604 1610 1607 32 1608 1587 1604 1605;"
    ++ "65019 1580 1604 32 1580 1604 1575 1604 1607;65020 1585 1740 1575 1604;65024;65025;65026;"
    ++ "65027;65028;65029;65030;65031;65032;65033;65034;65035;65036;65037;65038;65039;65097 32 773;"
    ++ "65098 32 773;65099 32 773;65100 32 773;65136 32 1611;65137 1600 1611;65138 32 1612;"
    ++ "65140 32 1613;65142 32 1614;65143 1600 1614;65144 32 1615;65145 1600 1615;65146 32 1616;"
    ++ "65147 1600 1616;65148 32 1617;65149 1600 1617;65150 32 1618;65151 1600 1618;65269 1604 1570;"
    ++ "65270 1604 1570;65271 1604 1571;65272 1604 1571;65273 1604 1573;65274 1604 1573;"
    ++ "65275 1604 1575;65276 1604 1575;65279;65440;65507 32 772;113824;113825;113826;113827;"
    ++ "119134 119127 119141;119135 119128 119141;119136 119128 119141 119150;"
    ++ "119137 119128 119141 119151;119138 119128 119141 119152;119139 119128 119141 119153;"
    ++ "119140 119128 119141 119154;119155;119156;119157;119158;119159;119160;119161;119162;"
    ++ "119227 119225 119141;119228 119226 119141;119229 119225 119141 119150;"
    ++ "119230 119226 119141 119150;119231 119225 119141 119151;119232 119226 119141 119151;"
    ++ "127233 48 44;127234 49 44;127235 50 44;127236 51 44;127237 52 44;127238 53 44;127239 54 44;"
    ++ "127240 55 44;127241 56 44;127242 57 44;127248 40 97 41;127249 40 98 41;127250 40 99 41;"
    ++ "127251 40 100 41;127252 40 101 41;127253 40 102 41;127254 40 103 41;127255 40 104 41;"
    ++ "127256 40 105 41;127257 40 106 41;127258 40 107 41;127259 40 108 41;127260 40 109 41;"
    ++ "127261 40 110 41;127262 40 111 41;127263 40 112 41;127264 40 113 41;127265 40 114 41;"
    ++ "127266 40 115 41;127267 40 116 41;127268 40 117 41;127269 40 118 41;127270 40 119 41;"
    ++ "127271 40 120 41;127272 40 121 41;127273 40 122 41;127274 12308 115 12309;127277 99 100;"
    ++ "127278 119 122;127306 104 118;127307 109 118;127308 115 100;127309 115 115;"
    ++ "127310 112 112 118;127311 119 99;127338 109 99;127339 109 100;127340 109 114;127376 100 106;"
    ++ "127488 12411 12363;127489 12467 12467;127552 12308 26412 12309;127553 12308 19977 12309;"
    ++ "127554 12308 20108 12309;127555 12308 23433 12309;127556 12308 28857 12309;"
    ++ "127557 12308 25171 12309;127558 12308 30423 12309;127559 12308 21213 12309;"
    ++ "127560 12308 25943 12309;917505;917536;917537;917538;917539;917540;917541;917542;917543;"
    ++ "917544;917545;917546;917547;917548;917549;917550;917551;917552;917553;917554;917555;917556;"
    ++ "917557;917558;917559;917560;917561;917562;917563;917564;917565;917566;917567;917568;917569;"
    ++ "917570;917571;917572;917573;917574;917575;917576;917577;917578;917579;917580;917581;917582;"
    ++ "917583;917584;917585;917586;917587;917588;917589;917590;917591;917592;917593;917594;917595;"
    ++ "917596;917597;917598;917599;917600;917601;917602;917603;917604;917605;917606;917607;917608;"
    ++ "917609;917610;917611;917612;917613;917614;917615;917616;917617;917618;917619;917620;917621;"
    ++ "917622;917623;917624;917625;917626;917627;917628;917629;917630;917631;917760;917761;917762;"
    ++ "917763;917764;917765;917766;917767;917768;917769;917770;917771;917772;917773;917774;917775;"
    ++ "917776;917777;917778;917779;917780;917781;917782;917783;917784;917785;917786;917787;917788;"
    ++ "917789;917790;917791;917792;917793;917794;917795;917796;917797;917798;917799;917800;917801;"
    ++ "917802;917803;917804;917805;917806;917807;917808;917809;917810;917811;917812;917813;917814;"
    ++ "917815;917816;917817;917818;917819;917820;917821;917822;917823;917824;917825;917826;917827;"
    ++ "917828;917829;917830;917831;917832;917833;917834;917835;917836;917837;917838;917839;917840;"
    ++ "917841;917842;917843;917844;917845;917846;917847;917848;917849;917850;917851;917852;917853;"
    ++ "917854;917855;917856;917857;917858;917859;917860;917861;917862;917863;917864;917865;917866;"
    ++ "917867;917868;917869;917870;917871;917872;917873;917874;917875;917876;917877;917878;917879;"
    ++ "917880;917881;917882;917883;917884;917885;917886;917887;917888;917889;917890;917891;917892;"
    ++ "917893;917894;917895;917896;917897;917898;917899;917900;917901;917902;917903;917904;917905;"
    ++ "917906;917907;917908;917909;917910;917911;917912;917913;917914;917915;917916;917917;917918;"
    ++ "917919;917920;917921;917922;917923;917924;917925;917926;917927;917928;917929;917930;917931;"
    ++ "917932;917933;917934;917935;917936;917937;917938;917939;917940;917941;917942;917943;917944;"
    ++ "917945;917946;917947;917948;917949;917950;917951;917952;917953;917954;917955;917956;917957;"
    ++ "917958;917959;917960;917961;917962;917963;917964;917965;917966;917967;917968;917969;917970;"
    ++ "917971;917972;917973;917974;917975;917976;917977;917978;917979;917980;917981;917982;917983;"
    ++ "917984;917985;917986;917987;917988;917989;917990;917991;917992;917993;917994;917995;917996;"
    ++ "917997;917998;917999"

/-- Characters that a domain name may not hold, since they contain a full stop. -/
def stops : List Nat :=
  [8228, 8229, 8230, 9352, 9353, 9354, 9355, 9356, 9357, 9358, 9359, 9360, 9361, 9362,
   9363, 9364, 9365, 9366, 9367, 9368, 9369, 9370, 9371, 13250, 13255, 13272, 65049, 65072,
   65106, 127232]

def runs : List (List Nat) := Table.rows runsText

def sequences : List (List Nat) := Table.rows sequencesText

/-- What a code point becomes; itself in most cases. -/
def ofCode (n : Nat) : List Nat :=
  if n < 128 then if 65 ≤ n ∧ n ≤ 90 then [n + 32] else [n]
  else
    match sequences.find? (·.head? == some n) with
    | some (_ :: ns) => ns
    | _ =>
      let run := runs.findSome? fun
        | [first, last, step, target] =>
          if first ≤ n ∧ n ≤ last ∧ (n - first) % step = 0 then some (target + (n - first)) else none
        | _ => none
      [run.getD n]

/-- A domain name made uniform, if each of its characters can be. -/
def ofText? (s : List Char) : Option (List Char) :=
  if s.any fun c => stops.contains c.toNat then none
  else some ((s.flatMap fun c => ofCode c.toNat).map Char.ofNat)

end Formulary.Mapping
